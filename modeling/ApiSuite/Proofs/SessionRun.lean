import ApiSuite.Proofs.Writes
import ApiSuite.Session

/-! # Runs of a session

Whatever happens in a step, it hands over at most one request, the one that its template gives with
the store before the step, and it writes nothing but what its captures read from a successful
answer. A run of steps therefore sends these requests one after the other and unbinds no name.
-/
namespace ApiSuite

namespace Response

theorem isSuccess_iff {r : Response} :
    r.isSuccess = true ↔ 200 ≤ r.status.toNat ∧ r.status.toNat ≤ 299 := by
  rw [isSuccess, Bool.and_eq_true, decide_eq_true_eq, decide_eq_true_eq, UInt16.le_iff_toNat_le,
    UInt16.lt_iff_toNat_lt]
  exact and_congr_right fun _ => Nat.lt_succ_iff

theorem expectSuccess_eq_ok_iff {r : Response} :
    r.expectSuccess = .ok () ↔ r.isSuccess = true := by
  unfold expectSuccess
  split <;> simp_all

end Response

namespace Session

inductive Step where
  | resolve (t : Template)
  | send (t : Template)
  | sendAndCapture (t : Template) (captures : List Capture)

namespace Step

def template? : Step → Option Template
  | resolve _ => none
  | send t => some t
  | sendAndCapture t _ => some t

def captures : Step → List Capture
  | sendAndCapture _ captures => captures
  | _ => []

def writes : Step → Reply → List (String × Json)
  | sendAndCapture _ captures, .ok response =>
    if response.isSuccess then Capture.written response captures else []
  | _, _ => []

theorem mem_captures_of_mem_writes {step : Step} {reply : Reply} {e : String × Json}
    (h : e ∈ step.writes reply) : ∃ c ∈ step.captures, c.variableName = e.1 := by
  unfold writes at h
  split at h
  · split at h
    · obtain ⟨c, hc, hname, -⟩ := Capture.exists_of_mem_written _ h
      exact ⟨c, hc, hname⟩
    · cases h
  · cases h

theorem writes_ne_nil {step : Step} {reply : Reply} (h : step.writes reply ≠ []) :
    ∃ t captures response, step = .sendAndCapture t captures ∧ reply = .ok response ∧
      response.isSuccess = true := by
  unfold writes at h
  split at h
  · rename_i t captures response
    split at h
    · rename_i hs
      exact ⟨t, captures, response, rfl, rfl, hs⟩
    · exact absurd rfl h
  · exact absurd rfl h

end Step

variable {σ : Type} (s : Session σ)

def perform (now : SessionState σ) : Step → SessionState σ
  | .resolve _ => now
  | .send t => (s.send t now).1
  | .sendAndCapture t captures => (s.sendAndCapture t captures now).1

/-- The states that steps lead to, one after the other. -/
def run (start : SessionState σ) (steps : List Step) : SessionState σ := steps.foldl s.perform start

/-- The request that a step hands over: none when it sends nothing or its template is refused. -/
def request? (store : Store) (step : Step) : Option Request :=
  step.template?.bind fun t => ((s.builder store).build t).outcome.toOption

/-- The requests of steps, each built with the store that the steps before it leave behind. -/
def requests (now : SessionState σ) : List Step → List Request
  | [] => []
  | step :: rest => (s.request? now.store step).toList ++ requests (s.perform now step) rest

def written (now : SessionState σ) (step : Step) : List (String × Json) :=
  match s.request? now.store step with
  | none => []
  | some r => step.writes (s.transport now.remote r).2

/-- The state after a request has been handed over and answered, and something has been written. -/
def answered (now : SessionState σ) (r : Request) (entries : List (String × Json)) :
    SessionState σ :=
  ⟨now.store.setManyJson entries, now.sent ++ [r], (s.transport now.remote r).1⟩

theorem send_eq_of_refused {now : SessionState σ} {t : Template} {e : VariableError}
    (h : ((s.builder now.store).build t).outcome = .error e) :
    s.send t now = (now, .error (.unresolved e)) := by
  unfold send resolve
  rw [h]

theorem send_eq_of_built {now : SessionState σ} {t : Template} {r : Request}
    (h : ((s.builder now.store).build t).outcome = .ok r) :
    s.send t now = (s.answered now r [], match (s.transport now.remote r).2 with
      | .ok response => .ok response
      | .error e => .error (.request e)) := by
  unfold send resolve
  rw [h]
  rfl

theorem sendAndCapture_eq_of_refused {now : SessionState σ} {t : Template} {e : VariableError}
    (captures : List Capture) (h : ((s.builder now.store).build t).outcome = .error e) :
    s.sendAndCapture t captures now = (now, .error (.unresolved e)) := by
  rw [sendAndCapture, s.send_eq_of_refused h]

theorem sendAndCapture_eq_of_built {now : SessionState σ} {t : Template} {r : Request}
    (captures : List Capture) (h : ((s.builder now.store).build t).outcome = .ok r) :
    s.sendAndCapture t captures now = match (s.transport now.remote r).2 with
      | .error e => (s.answered now r [], .error (.request e))
      | .ok response => match response.expectSuccess with
        | .error e => (s.answered now r [], .error e)
        | .ok () => capture response captures (s.answered now r []) := by
  rw [sendAndCapture, s.send_eq_of_built h]
  cases (s.transport now.remote r).2 <;> rfl

theorem request?_send (store : Store) (t : Template) :
    s.request? store (.send t) = ((s.builder store).build t).outcome.toOption := rfl

theorem request?_sendAndCapture (store : Store) (t : Template) (captures : List Capture) :
    s.request? store (.sendAndCapture t captures) =
      ((s.builder store).build t).outcome.toOption := rfl

theorem perform_eq (now : SessionState σ) (step : Step) :
    s.perform now step = match s.request? now.store step with
      | none => now
      | some r => s.answered now r (step.writes (s.transport now.remote r).2) := by
  cases step with
  | resolve t => rfl
  | send t =>
    rw [perform, request?_send]
    cases hb : ((s.builder now.store).build t).outcome with
    | error e =>
      rw [s.send_eq_of_refused hb]
      rfl
    | ok r =>
      rw [s.send_eq_of_built hb]
      rfl
  | sendAndCapture t captures =>
    rw [perform, request?_sendAndCapture]
    cases hb : ((s.builder now.store).build t).outcome with
    | error e =>
      rw [s.sendAndCapture_eq_of_refused captures hb]
      rfl
    | ok r =>
      rw [s.sendAndCapture_eq_of_built captures hb]
      change _ = s.answered now r (Step.writes _ (s.transport now.remote r).2)
      cases (s.transport now.remote r).2 with
      | error e => rfl
      | ok response =>
        -- Only here do captures run, from the store that the request was built with.
        by_cases hs : response.isSuccess = true
        · have hexpect := Response.expectSuccess_eq_ok_iff.2 hs
          have hstore := Capture.store_applyAll response now.store captures
          simp only [hexpect, Step.writes, if_pos hs, answered, ← hstore]
          rfl
        · simp [Response.expectSuccess, Step.writes, hs]

theorem sent_perform (now : SessionState σ) (step : Step) :
    (s.perform now step).sent = now.sent ++ (s.request? now.store step).toList := by
  rw [perform_eq]
  cases s.request? now.store step with
  | none => exact (List.append_nil _).symm
  | some r => rfl

theorem remote_perform (now : SessionState σ) (step : Step) :
    (s.perform now step).remote =
      (s.request? now.store step).toList.foldl (fun remote r => (s.transport remote r).1)
        now.remote := by
  rw [perform_eq]
  cases s.request? now.store step <;> rfl

theorem store_perform (now : SessionState σ) (step : Step) :
    (s.perform now step).store = now.store.setManyJson (s.written now step) := by
  rw [perform_eq, written]
  cases s.request? now.store step <;> rfl

theorem mem_captures_of_mem_written {now : SessionState σ} {step : Step} {e : String × Json}
    (h : e ∈ s.written now step) : ∃ c ∈ step.captures, c.variableName = e.1 := by
  unfold written at h
  split at h
  · cases h
  · exact Step.mem_captures_of_mem_writes h

theorem build_of_request? {store : Store} {step : Step} {t : Template} {r : Request}
    (ht : step.template? = some t) (h : s.request? store step = some r) :
    ((s.builder store).build t).outcome = .ok r := by
  rw [request?, ht] at h
  change ((s.builder store).build t).outcome.toOption = some r at h
  cases hb : ((s.builder store).build t).outcome with
  | error e =>
    rw [hb] at h
    cases h
  | ok r' =>
    rw [hb] at h
    rw [Option.some.inj h]

/-- Only captures from a successful answer write. -/
theorem exists_of_written_ne_nil {now : SessionState σ} {step : Step}
    (h : s.written now step ≠ []) :
    ∃ t captures r response, step = .sendAndCapture t captures ∧
      ((s.builder now.store).build t).outcome = .ok r ∧
      (s.transport now.remote r).2 = .ok response ∧ response.isSuccess = true := by
  unfold written at h
  split at h
  · exact absurd rfl h
  · rename_i r hr
    obtain ⟨t, captures, response, rfl, hreply, hs⟩ := Step.writes_ne_nil h
    exact ⟨t, captures, r, response, rfl, s.build_of_request? rfl hr, hreply, hs⟩

theorem contains_perform {now : SessionState σ} {name : String} (step : Step)
    (h : now.store.contains name = true) : (s.perform now step).store.contains name = true := by
  rw [store_perform]
  exact now.store.contains_setManyJson h

theorem run_append (start : SessionState σ) (steps more : List Step) :
    s.run start (steps ++ more) = s.run (s.run start steps) more := List.foldl_append

theorem sent_run (start : SessionState σ) (steps : List Step) :
    (s.run start steps).sent = start.sent ++ s.requests start steps := by
  induction steps generalizing start with
  | nil => exact (List.append_nil _).symm
  | cons step rest ih =>
    have hrest : (s.run start (step :: rest)).sent = _ := ih (s.perform start step)
    rw [hrest, sent_perform, requests, List.append_assoc]

theorem remote_run (start : SessionState σ) (steps : List Step) :
    (s.run start steps).remote =
      (s.requests start steps).foldl (fun remote r => (s.transport remote r).1) start.remote := by
  induction steps generalizing start with
  | nil => rfl
  | cons step rest ih =>
    have hrest : (s.run start (step :: rest)).remote = _ := ih (s.perform start step)
    rw [hrest, remote_perform, requests, List.foldl_append]

theorem contains_run {start : SessionState σ} {name : String} (steps : List Step)
    (h : start.store.contains name = true) : (s.run start steps).store.contains name = true := by
  induction steps generalizing start with
  | nil => exact h
  | cons step rest ih => exact ih (s.contains_perform step h)

/-- A run hands over the requests of its steps in their order, each once, and the transport moves by
these alone. The store changes only in a step that captures from an answer with a status of success,
and only at the names of its captures. A name that is bound stays bound. -/
theorem run_sends_and_writes (start : SessionState σ) (steps : List Step) :
    (s.run start steps).sent = start.sent ++ s.requests start steps ∧
    (s.run start steps).remote =
      (s.requests start steps).foldl (fun remote r => (s.transport remote r).1) start.remote ∧
    ∀ before step after, steps = before ++ step :: after →
      let now := s.run start before
      let next := s.perform now step
      next.sent = now.sent ++ (s.request? now.store step).toList ∧
      (next.store ≠ now.store → ∃ t captures r response, step = .sendAndCapture t captures ∧
        ((s.builder now.store).build t).outcome = .ok r ∧
        (s.transport now.remote r).2 = .ok response ∧
        200 ≤ response.status.toNat ∧ response.status.toNat ≤ 299) ∧
      (∀ name, next.store.binding? name ≠ now.store.binding? name →
        ∃ c ∈ step.captures, c.variableName = name) ∧
      ∀ name, now.store.contains name = true → (s.run start steps).store.contains name = true := by
  refine ⟨s.sent_run start steps, s.remote_run start steps, ?_⟩
  rintro before step after rfl
  intro now next
  have hstore : next.store = now.store.setManyJson (s.written now step) := s.store_perform now step
  refine ⟨s.sent_perform now step, fun hne => ?_, fun name hne => ?_, fun name hbound => ?_⟩
  · have hwritten : s.written now step ≠ [] := by
      intro hnil
      rw [hnil] at hstore
      exact hne hstore
    obtain ⟨t, captures, r, response, hstep, hb, hreply, hs⟩ := s.exists_of_written_ne_nil hwritten
    exact ⟨t, captures, r, response, hstep, hb, hreply, Response.isSuccess_iff.1 hs⟩
  · rw [hstore] at hne
    obtain ⟨e, he, rfl⟩ := now.store.exists_of_binding?_setManyJson_ne hne
    exact s.mem_captures_of_mem_written he
  · rw [run_append]
    exact s.contains_run (step :: after) hbound

end Session

end ApiSuite
