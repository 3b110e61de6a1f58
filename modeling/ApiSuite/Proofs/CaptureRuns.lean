import ApiSuite.Proofs.Writes

/-! # Runs of captures

A run of captures writes the values of the captures before the first that fails, in order, and
reports that failure. What a capture reads comes from the response alone, so that a run that is cut
anywhere goes on as a run of its own from the store at the cut.
-/
namespace ApiSuite

namespace Capture

variable (r : Response) (s : Store)

/-- How a run ends in front of these captures: there are none, or the first one fails. -/
inductive Ends : List Capture → Except VariableError Unit → Prop
  | done : Ends [] (.ok ())
  | failed {c : Capture} {rest : List Capture} {e : VariableError} (h : c.extract r = .error e) :
    Ends (c :: rest) (.error e)

def AllFound (captures : List Capture) : Prop := ∀ c ∈ captures, ∃ v, c.extract r = .ok v

theorem exists_ends (captures : List Capture) :
    ∃ before rest result, captures = before ++ rest ∧ AllFound r before ∧ Ends r rest result := by
  induction captures with
  | nil => exact ⟨[], [], .ok (), rfl, nofun, .done⟩
  | cons c rest ih =>
    cases hc : c.extract r with
    | error e => exact ⟨[], c :: rest, .error e, rfl, nofun, .failed hc⟩
    | ok v =>
      obtain ⟨before, more, result, rfl, hfound, hends⟩ := ih
      exact ⟨c :: before, more, result, rfl, List.forall_mem_cons.2 ⟨⟨v, hc⟩, hfound⟩, hends⟩

/-- A run goes on behind captures that succeed from the store that they leave. -/
theorem applyAll_append {before : List Capture} (h : AllFound r before) (rest : List Capture) :
    applyAll r s (before ++ rest) = applyAll r (applyAll r s before).1 rest := by
  induction before generalizing s with
  | nil => rfl
  | cons c before ih =>
    obtain ⟨⟨v, hv⟩, hbefore⟩ := List.forall_mem_cons.1 h
    rw [List.cons_append, applyAll, applyAll, hv]
    exact ih (s.setJson c.variableName v) hbefore

theorem applyAll_of_allFound {captures : List Capture} (h : AllFound r captures) :
    (applyAll r s captures).2 = .ok () := by
  have hall := congrArg Prod.snd (applyAll_append r s h [])
  rwa [List.append_nil] at hall

theorem applyAll_of_ends {rest : List Capture} {result : Except VariableError Unit}
    (h : Ends r rest result) : applyAll r s rest = (s, result) := by
  cases h with
  | done => rfl
  | failed h => rw [applyAll, h]

theorem applyAll_eq_ok_iff {captures : List Capture} :
    (applyAll r s captures).2 = .ok () ↔ AllFound r captures := by
  refine ⟨fun h => ?_, applyAll_of_allFound r s⟩
  obtain ⟨before, rest, result, rfl, hfound, hends⟩ := exists_ends r captures
  rw [applyAll_append r s hfound, applyAll_of_ends r _ hends] at h
  cases hends with
  | done => rwa [List.append_nil]
  | failed => cases h

theorem binding?_applyAll_of_forall_ne {captures : List Capture} {name : String}
    (h : ∀ c ∈ captures, c.variableName ≠ name) :
    (applyAll r s captures).1.binding? name = s.binding? name := by
  rw [store_applyAll]
  refine s.binding?_setManyJson_of_forall_ne fun e he hname => ?_
  obtain ⟨c, hc, hvar, -⟩ := exists_of_mem_written r he
  exact h c hc (hvar.trans hname)

theorem policy_applyAll (captures : List Capture) :
    (applyAll r s captures).1.policy = s.policy := by
  rw [store_applyAll, Store.setManyJson_eq]

theorem extract_header_eq_ok_iff {variableName name : String} {v : Json} :
    (header variableName name).extract r = .ok v ↔
      ∃ value, r.header? name = some value ∧ v = .str value := by
  simp only [extract, header]
  cases r.header? name <;> simp [eq_comm]

/-- A run writes the captures before the first that fails and no others: the last of them for a
variable binds it to its value, all other variables keep their bindings. It succeeds when all
captures do and otherwise reports that first failure. A capture reads the same wherever it stands
in a run, and one of a header reads the same whatever the body. -/
theorem applyAll_writes_before_failure (captures : List Capture) :
    (∃ before rest, captures = before ++ rest ∧ AllFound r before ∧
      Ends r rest (applyAll r s captures).2 ∧
      (applyAll r s captures).1.policy = s.policy ∧
      (∀ name, (∀ c ∈ before, c.variableName ≠ name) →
        (applyAll r s captures).1.binding? name = s.binding? name) ∧
      ∀ front c back, before = front ++ c :: back →
        (∀ d ∈ back, d.variableName ≠ c.variableName) →
        ∃ v, c.extract r = .ok v ∧ (applyAll r s captures).1.binding? c.variableName =
          (s.setJson c.variableName v).binding? c.variableName) ∧
    ((applyAll r s captures).2 = .ok () ↔ AllFound r captures) ∧
    (∀ before c after, captures = before ++ c :: after → AllFound r before →
      applyAll r s captures = match c.extract r with
        | .error e => ((applyAll r s before).1, .error e)
        | .ok v => applyAll r ((applyAll r s before).1.setJson c.variableName v) after) ∧
    ∀ variableName name,
      (∀ v, (header variableName name).extract r = .ok v ↔
        ∃ value, r.header? name = some value ∧ v = .str value) ∧
      ∀ body, (header variableName name).extract { r with body } =
        (header variableName name).extract r := by
  refine ⟨?_, applyAll_eq_ok_iff r s, ?_, fun variableName name =>
    ⟨fun v => extract_header_eq_ok_iff r, fun body => rfl⟩⟩
  · obtain ⟨before, rest, result, rfl, hfound, hends⟩ := exists_ends r captures
    have hrun : applyAll r s (before ++ rest) = ((applyAll r s before).1, result) := by
      rw [applyAll_append r s hfound, applyAll_of_ends r _ hends]
    rw [hrun]
    refine ⟨before, rest, rfl, hfound, hends, policy_applyAll r s before,
      fun name hname => binding?_applyAll_of_forall_ne r s hname, ?_⟩
    rintro front c back rfl hback
    have hok : applyAll r s (front ++ c :: back) =
        ((applyAll r s (front ++ c :: back)).1, .ok ()) :=
      Prod.ext rfl (applyAll_of_allFound r s hfound)
    obtain ⟨v, hv, hbound⟩ := exists_binding?_applyAll r hok hback
    refine ⟨v, hv, ?_⟩
    rw [hbound, Store.setJson, Store.binding?_bind, if_pos rfl]
  · rintro before c after rfl hfound
    exact applyAll_append r s hfound (c :: after)

end Capture

end ApiSuite
