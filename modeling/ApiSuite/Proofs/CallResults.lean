import ApiSuite.Proofs.CapturedValues
import ApiSuite.Proofs.Descent
import ApiSuite.Proofs.FailedCalls

/-! # What a successful call gives and binds

A call that creates an event, registers a user or logs in reads its result back from the store. It
succeeds just when its request is built and answered with success and the field that it asks for is
there and no null. The result is then the text of the field, its variable is bound to this text, and
the only other variable that can have changed is the one that the name of an event goes through.
-/
namespace ApiSuite

/-- The text of a value by itself: a string is its own text, any other value has its compact one. -/
def Json.plain : Json → String
  | .str s => s
  | v => v.render

theorem Binding.ofJson_eq_text_iff {v : Json} {text : String} :
    ofJson v = .text text ↔ v ≠ .null ∧ v.plain = text := by
  cases v <;> simp [ofJson, Json.plain]

theorem Event.parse_identifierPath : JsonPath.parse "$.id" = .ok identifierPath := by
  have hparse : JsonPath.parse ("$." ++ "id") = .ok ⟨"$." ++ "id", [.field "id"]⟩ :=
    Descent.parse_field ⟨by simp, by simp⟩ (by simp; decide)
  simpa only [String.reduceAppend, identifierPath] using hparse

theorem User.parse_tokenPath : JsonPath.parse "$.access_token" = .ok tokenPath := by
  have hparse : JsonPath.parse ("$." ++ "access_token") =
      .ok ⟨"$." ++ "access_token", [.field "access_token"]⟩ :=
    Descent.parse_field ⟨by simp, by simp⟩ (by simp; decide)
  simpa only [String.reduceAppend, tokenPath] using hparse

namespace Session

variable {σ : Type} (s : Session σ)

/-- The template gives a request, the request is answered with a status from 200 to 299, and the
body of the answer spells a value that has this one, not null, in the field. -/
def AnsweredField (now : SessionState σ) (t : Template) (key : String) (w : Json) : Prop :=
  ∃ r response v, ((s.builder now.store).build t).outcome = .ok r ∧
    (s.transport now.remote r).2 = .ok response ∧
    (200 ≤ response.status.toNat ∧ response.status.toNat ≤ 299) ∧
    response.json = .ok v ∧ v.field? key = some w ∧ w ≠ .null

/-- A call succeeds with the text of the field, and writes this text to its variable. -/
theorem sendAndRead_field_eq_ok_iff {now next : SessionState σ} {t : Template}
    {raw key name id : String} :
    s.sendAndRead t ⟨name, .json ⟨raw, [.field key]⟩⟩ now = (next, .ok id) ↔
      ∃ r response v w, ((s.builder now.store).build t).outcome = .ok r ∧
        (s.transport now.remote r).2 = .ok response ∧ response.isSuccess = true ∧
        response.json = .ok v ∧ v.field? key = some w ∧ w ≠ .null ∧ w.plain = id ∧
        next = ⟨now.store.set name id, now.sent ++ [r], (s.transport now.remote r).1⟩ := by
  rw [sendAndRead_eq_ok_iff]
  constructor
  · rintro ⟨⟨response, hsent⟩, hbound⟩
    obtain ⟨r, store, hb, hreply, hs, happlied, rfl⟩ := s.sendAndCapture_eq_ok_iff.1 hsent
    rw [Capture.applyAll] at happlied
    split at happlied
    · cases happlied
    · rename_i w hw
      obtain ⟨rfl, -⟩ := Prod.mk.inj happlied
      obtain ⟨v, hv, hfield⟩ := Capture.extract_field_eq_ok_iff.1 hw
      rw [Store.setJson, Store.binding?_bind, if_pos rfl, Option.some.injEq] at hbound
      obtain ⟨hnull, hid⟩ := Binding.ofJson_eq_text_iff.1 hbound
      refine ⟨r, response, v, w, hb, hreply, hs, hv, hfield, hnull, hid, ?_⟩
      rw [Store.setJson, hbound]
      rfl
  · rintro ⟨r, response, v, w, hb, hreply, hs, hv, hfield, hnull, hid, rfl⟩
    have hbinding : Binding.ofJson w = .text id := Binding.ofJson_eq_text_iff.2 ⟨hnull, hid⟩
    have hw : Capture.extract ⟨name, .json ⟨raw, [.field key]⟩⟩ response = .ok w :=
      Capture.extract_field_eq_ok_iff.2 ⟨v, hv, hfield⟩
    constructor
    · refine ⟨response, s.sendAndCapture_eq_ok_iff.2 ⟨r, _, hb, hreply, hs, ?_, rfl⟩⟩
      rw [Capture.applyAll, hw]
      dsimp only
      rw [Capture.applyAll, Store.setJson, hbinding]
      rfl
    · rw [Store.set, Store.binding?_bind, if_pos rfl]

theorem outcome_sendAndRead_field_eq_ok_iff (now : SessionState σ) (t : Template)
    (raw key name id : String) :
    (s.sendAndRead t ⟨name, .json ⟨raw, [.field key]⟩⟩ now).2 = .ok id ↔
      ∃ w, s.AnsweredField now t key w ∧ w.plain = id := by
  simp only [AnsweredField, ← Response.isSuccess_iff]
  constructor
  · intro h
    obtain ⟨r, response, v, w, hb, hreply, hs, hv, hfield, hnull, hid, -⟩ :=
      s.sendAndRead_field_eq_ok_iff.1 (Prod.ext rfl h)
    exact ⟨w, ⟨r, response, v, hb, hreply, hs, hv, hfield, hnull⟩, hid⟩
  · rintro ⟨w, ⟨r, response, v, hb, hreply, hs, hv, hfield, hnull⟩, hid⟩
    have hcall : s.sendAndRead t ⟨name, .json ⟨raw, [.field key]⟩⟩ now = (_, .ok id) :=
      s.sendAndRead_field_eq_ok_iff.2
        ⟨r, response, v, w, hb, hreply, hs, hv, hfield, hnull, hid, rfl⟩
    exact congrArg Prod.snd hcall

theorem store_of_sendAndRead_field {now : SessionState σ} {t : Template} {raw key name id : String}
    (h : (s.sendAndRead t ⟨name, .json ⟨raw, [.field key]⟩⟩ now).2 = .ok id) :
    (s.sendAndRead t ⟨name, .json ⟨raw, [.field key]⟩⟩ now).1.store = now.store.set name id := by
  obtain ⟨r, response, v, w, -, -, -, -, -, -, -, hnext⟩ :=
    s.sendAndRead_field_eq_ok_iff.1 (Prod.ext rfl h)
  exact congrArg SessionState.store hnext

/-- The call succeeds just when the field is answered with a value that is not null, with the text
of this value, and then the store is the one before with the text bound to the variable. -/
structure GivesField (now : SessionState σ) (t : Template) (key name : String)
    (outcome : Outcome σ String) : Prop where
  ok_iff : ∀ id, outcome.2 = .ok id ↔ ∃ w, s.AnsweredField now t key w ∧ w.plain = id
  bound : ∀ id, outcome.2 = .ok id → outcome.1.store.binding? name = some (.text id)
  kept : ∀ id, outcome.2 = .ok id → ∀ other, other ≠ name →
    outcome.1.store.binding? other = now.store.binding? other

theorem givesField_sendAndRead (now : SessionState σ) (t : Template) (raw key name : String) :
    s.GivesField now t key name (s.sendAndRead t ⟨name, .json ⟨raw, [.field key]⟩⟩ now) where
  ok_iff := s.outcome_sendAndRead_field_eq_ok_iff now t raw key name
  bound := by
    intro id h
    rw [s.store_of_sendAndRead_field h, Store.set, Store.binding?_bind, if_pos rfl]
  kept := by
    intro id h other hother
    rw [s.store_of_sendAndRead_field h, Store.set, Store.binding?_bind, if_neg hother.symm]

/-- A call that creates an event, registers a user or logs in succeeds just when its field is
answered with a value that is not null, and gives and binds the text of this value. No other
variable changes, except that the one for names holds the name of the event, unless it is the one
to bind. -/
theorem calls_give_answered_field (now : SessionState σ) :
    (∀ (storeKey : String) (e : Event),
      let ready := { now with store := now.store.set Event.nameVariable e.name }
      let outcome := Event.create s storeKey e now
      s.GivesField ready e.template "id" storeKey outcome ∧
      ∀ id, outcome.2 = .ok id →
        (storeKey ≠ Event.nameVariable →
          outcome.1.store.binding? Event.nameVariable = some (.text e.name)) ∧
        ∀ other, other ≠ storeKey → other ≠ Event.nameVariable →
          outcome.1.store.binding? other = now.store.binding? other) ∧
    (∀ u : User, s.GivesField now u.registration "id" User.identifierVariable
      (User.register s u now)) ∧
    ∀ email password tokenKey : String,
      s.GivesField now (User.credentials email password) "access_token" tokenKey
        (User.login s email password tokenKey now) := by
  refine ⟨fun storeKey e => ?_, fun u => s.givesField_sendAndRead now _ _ _ _,
    fun email password tokenKey => s.givesField_sendAndRead now _ _ _ _⟩
  intro ready outcome
  have hcall : s.GivesField ready e.template "id" storeKey outcome :=
    s.givesField_sendAndRead ready e.template "$.id" "id" storeKey
  refine ⟨hcall, fun id hid => ⟨fun hkey => ?_, fun other hother hname => ?_⟩⟩
  · rw [hcall.kept id hid _ hkey.symm]
    change (now.store.set Event.nameVariable e.name).binding? Event.nameVariable = _
    rw [Store.set, Store.binding?_bind, if_pos rfl]
  · rw [hcall.kept id hid other hother]
    change (now.store.set Event.nameVariable e.name).binding? other = _
    rw [Store.set, Store.binding?_bind, if_neg hname.symm]

end Session

end ApiSuite
