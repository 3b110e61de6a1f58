import ApiSuite.Fixture.User
import ApiSuite.Proofs.BuildPass
import ApiSuite.Proofs.RoundTrip
import ApiSuite.Proofs.SessionRun

/-! # What a failed call leaves of its variable

A call that creates an event, registers a user or logs in fills one variable from a field of the
answer. It can fail before it sends, in transport, by the status of the answer, when the field is
read, and when the variable is read back. Only the last of these comes after a write: the field is
there and null, and the null takes the place of what the variable was bound to.
-/
namespace ApiSuite

theorem Binding.text?_ofJson_eq_none_iff {v : Json} : (ofJson v).text? = none ↔ v = .null := by
  cases v <;> simp [ofJson, text?]

/-- A capture of one field reads it from the object that the body spells. -/
theorem Capture.extract_field_eq_ok_iff {name raw key : String} {r : Response} {w : Json} :
    extract ⟨name, .json ⟨raw, [.field key]⟩⟩ r = .ok w ↔
      ∃ v, r.json = .ok v ∧ v.field? key = some w := by
  unfold extract
  cases r.json with
  | error e => simp
  | ok v =>
    have hstep : JsonPath.PathStep.from? v (.field key) = v.field? key := rfl
    simp only [JsonPath.evaluate, JsonPath.follow, hstep]
    cases hv : v.field? key <;> simp [hv]

namespace Session

variable {σ : Type} (s : Session σ)

/-- What a value that has been written to a variable is read back as. -/
def readBack (name : String) (v : Json) : Except SuiteError String :=
  match (Binding.ofJson v).text? with
  | some text => .ok text
  | none => .error (.unresolved (.undefined name))

theorem readBack_eq_error_iff {name : String} {v : Json} {e : SuiteError} :
    readBack name v = .error e ↔ v = .null ∧ e = .unresolved (.undefined name) := by
  rw [← Binding.text?_ofJson_eq_none_iff, readBack]
  cases (Binding.ofJson v).text? <;> simp [eq_comm]

theorem sendAndRead_eq_of_refused {now : SessionState σ} {t : Template} {e : VariableError}
    (c : Capture) (h : ((s.builder now.store).build t).outcome = .error e) :
    s.sendAndRead t c now = (now, .error (.unresolved e)) := by
  rw [sendAndRead, s.sendAndCapture_eq_of_refused [c] h]

theorem sendAndRead_eq_of_built {now : SessionState σ} {t : Template} {r : Request}
    (c : Capture) (h : ((s.builder now.store).build t).outcome = .ok r) :
    s.sendAndRead t c now = match (s.transport now.remote r).2 with
      | .error e => (s.answered now r [], .error (.request e))
      | .ok response => match response.expectSuccess with
        | .error e => (s.answered now r [], .error e)
        | .ok () => match c.extract response with
          | .error e => (s.answered now r [], .error (.unresolved e))
          | .ok v => (s.answered now r [(c.variableName, v)], readBack c.variableName v) := by
  rw [sendAndRead, s.sendAndCapture_eq_of_built [c] h]
  cases (s.transport now.remote r).2 with
  | error e => rfl
  | ok response =>
    dsimp only
    cases response.expectSuccess with
    | error e => rfl
    | ok _ =>
      dsimp only [capture, Capture.applyAll]
      cases c.extract response with
      | error e => rfl
      | ok v =>
        have hread : (now.store.setJson c.variableName v).get? c.variableName =
            (Binding.ofJson v).text? := by
          rw [Store.get?, Store.setJson, Store.binding?_bind, if_pos rfl]
          rfl
        have hresult : readBack c.variableName v =
            match (now.store.setJson c.variableName v).get? c.variableName with
            | some text => .ok text
            | none => .error (.unresolved (.undefined c.variableName)) := by
          rw [hread]
          rfl
        exact Prod.ext rfl hresult.symm

/-- The request of a call is answered with success, and the field of the answer is a null. -/
def AnsweredNull (now : SessionState σ) (t : Template) (key : String) : Prop :=
  ∃ r response v, ((s.builder now.store).build t).outcome = .ok r ∧
    (s.transport now.remote r).2 = .ok response ∧ response.isSuccess = true ∧
    response.json = .ok v ∧ v.field? key = some .null

/-- A call that fails leaves the variable as it was, except when the field is a null: then it fails
and the variable is null. -/
structure KeepsUnlessNull (before now : SessionState σ) (t : Template) (key name : String)
    (outcome : Outcome σ String) : Prop where
  kept : ¬s.AnsweredNull now t key → ∀ e, outcome.2 = .error e →
    outcome.1.store.binding? name = before.store.binding? name
  nulled : s.AnsweredNull now t key →
    outcome.2 = .error (.unresolved (.undefined name)) ∧
      outcome.1.store.binding? name = some .null

theorem keepsUnlessNull_sendAndRead (now : SessionState σ) (t : Template) (raw key name : String) :
    s.KeepsUnlessNull now now t key name
      (s.sendAndRead t ⟨name, .json ⟨raw, [.field key]⟩⟩ now) := by
  constructor
  · intro hnull e he
    cases hb : ((s.builder now.store).build t).outcome with
    | error e' => rw [s.sendAndRead_eq_of_refused _ hb]
    | ok r =>
      rw [s.sendAndRead_eq_of_built _ hb] at he ⊢
      cases hreply : (s.transport now.remote r).2 with
      | error e' => rfl
      | ok response =>
        rw [hreply] at he
        dsimp only at he ⊢
        cases hexpect : response.expectSuccess with
        | error e' => rfl
        | ok _ =>
          rw [hexpect] at he
          dsimp only at he ⊢
          cases hv : Capture.extract ⟨name, .json ⟨raw, [.field key]⟩⟩ response with
          | error e' => rfl
          | ok w =>
            rw [hv] at he
            obtain ⟨rfl, -⟩ := readBack_eq_error_iff.1 he
            obtain ⟨v, hjson, hfield⟩ := Capture.extract_field_eq_ok_iff.1 hv
            have hs := Response.expectSuccess_eq_ok_iff.1 hexpect
            exact absurd ⟨r, response, v, hb, hreply, hs, hjson, hfield⟩ hnull
  · rintro ⟨r, response, v, hb, hreply, hs, hjson, hfield⟩
    have hv : Capture.extract ⟨name, .json ⟨raw, [.field key]⟩⟩ response = .ok .null :=
      Capture.extract_field_eq_ok_iff.2 ⟨v, hjson, hfield⟩
    rw [s.sendAndRead_eq_of_built _ hb, hreply]
    dsimp only
    rw [Response.expectSuccess_eq_ok_iff.2 hs]
    dsimp only
    rw [hv]
    refine ⟨rfl, ?_⟩
    change (now.store.setJson name .null).binding? name = _
    rw [Store.setJson, Store.binding?_bind, if_pos rfl]
    rfl

/-- A call that creates an event, registers a user or logs in and fails leaves the variable that it
was to fill as it was, unless it has captured a null. -/
theorem failed_calls_keep_bindings (now : SessionState σ) :
    (∀ (storeKey : String) (e : Event), storeKey ≠ Event.nameVariable →
      s.KeepsUnlessNull now { now with store := now.store.set Event.nameVariable e.name }
        e.template "id" storeKey (Event.create s storeKey e now)) ∧
    (∀ u : User, s.KeepsUnlessNull now now u.registration "id" User.identifierVariable
      (User.register s u now)) ∧
    ∀ email password tokenKey : String,
      s.KeepsUnlessNull now now (User.credentials email password) "access_token" tokenKey
        (User.login s email password tokenKey now) := by
  refine ⟨fun storeKey e hkey => ?_, fun u => s.keepsUnlessNull_sendAndRead now _ _ _ _,
    fun email password tokenKey => s.keepsUnlessNull_sendAndRead now _ _ _ _⟩
  have hcall := s.keepsUnlessNull_sendAndRead
    { now with store := now.store.set Event.nameVariable e.name } e.template "$.id" "id" storeKey
  refine ⟨fun hnull error herror => ?_, hcall.nulled⟩
  have hname : (now.store.set Event.nameVariable e.name).binding? storeKey =
      now.store.binding? storeKey := by
    rw [Store.set, Store.binding?_bind, if_neg (Ne.symm hkey)]
  exact (hcall.kept hnull error herror).trans hname

/-- A registration that is answered with a null identifier fails and still takes the place of the
identifier of the user before. -/
theorem null_identifier_replaces :
    let doc : Json := .obj [("id", .null)]
    let response : Response := { Response.new 201 "Created" with
      body := doc.render.toList.map fun c => c.toNat.toUInt8 }
    let s : Session (List Reply) := ⟨none, [], Transport.prepared⟩
    let start : SessionState (List Reply) :=
      ⟨(Store.new .leaveAsIs).set "last_user_id" "user-1", [], [.ok response]⟩
    let u : User := ⟨"Mike", "Surname", "mike@tari.com", "555", "itsasecret"⟩
    start.store.binding? "last_user_id" = some (.text "user-1") ∧
      (User.register s u start).2 = .error (.unresolved (.undefined "last_user_id")) ∧
      (User.register s u start).1.store.binding? "last_user_id" = some .null := by
  intro doc response s start u
  have hbytes : Text.decode response.body = Text.symbols doc.render.toList := by decide +kernel
  have hjson : response.json = .ok doc := by
    rw [Response.json, Json.parseBytes, hbytes]
    exact Json.parse_render ⟨by decide, trivial, trivial⟩ ⟨trivial, trivial⟩ (by decide)
  have hbuild := (s.builder start.store).outcome_build u.registration nofun
  have hnull : s.AnsweredNull start u.registration "id" :=
    ⟨_, response, doc, hbuild, rfl, by decide, hjson, rfl⟩
  have hcall := s.keepsUnlessNull_sendAndRead start u.registration "$.id" "id" "last_user_id"
  obtain ⟨herror, hbound⟩ := hcall.nulled hnull
  exact ⟨by decide, herror, hbound⟩

end Session

end ApiSuite
