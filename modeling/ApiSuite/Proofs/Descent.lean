import ApiSuite.Proofs.PathLanguage

/-! # Writing a descent as a path

A descent is a way down into a document, a list of fields and indexes that a path can spell. It is
written as a dollar sign and its steps, and this text is read as exactly these steps. Following them
leads to the value at the end of the descent, or stops at the first step that is not there.
-/
namespace ApiSuite

namespace Json

/-- The second value stands in the first one at the end of the steps. -/
inductive At : Json → List PathStep → Json → Prop
  | here (v : Json) : At v [] v
  | field {fields : List (String × Json)} {name : String} {u w : Json} {rest : List PathStep}
    (hu : Entries.get? fields name = some u) (h : At u rest w) :
    At (.obj fields) (.field name :: rest) w
  | item {items : List Json} {n : Nat} {u w : Json} {rest : List PathStep}
    (hu : items[n]? = some u) (h : At u rest w) : At (.arr items) (.index n :: rest) w

theorem at_nil_iff {v w : Json} : v.At [] w ↔ v = w := by
  constructor
  · rintro ⟨⟩
    rfl
  · rintro rfl
    exact .here v

theorem at_cons_iff {v w : Json} {step : PathStep} {rest : List PathStep} :
    v.At (step :: rest) w ↔ ∃ u, v.At [step] u ∧ u.At rest w := by
  constructor
  · intro h
    cases h with
    | field hu h => exact ⟨_, .field hu (.here _), h⟩
    | item hu h => exact ⟨_, .item hu (.here _), h⟩
  · rintro ⟨u, hu, h⟩
    cases hu with
    | field hu h' => exact .field hu (at_nil_iff.1 h' ▸ h)
    | item hu h' => exact .item hu (at_nil_iff.1 h' ▸ h)

theorem from?_eq_some_iff {v u : Json} {step : PathStep} :
    JsonPath.PathStep.from? v step = some u ↔ v.At [step] u := by
  constructor
  · intro h
    cases step with
    | field name =>
      cases v with
      | obj fields => exact .field h (.here u)
      | null | bool _ | num _ | str _ | arr _ => cases h
    | index n =>
      cases v with
      | arr items => exact .item h (.here u)
      | null | bool _ | num _ | str _ | obj _ => cases h
  · intro h
    cases h with
    | field hu h => exact at_nil_iff.1 h ▸ hu
    | item hu h => exact at_nil_iff.1 h ▸ hu

theorem from?_eq_none_iff {v : Json} {step : PathStep} :
    JsonPath.PathStep.from? v step = none ↔ ∀ u, ¬v.At [step] u := by
  rw [Option.eq_none_iff_forall_ne_some]
  simp only [ne_eq, from?_eq_some_iff]

end Json

namespace JsonPath

theorem follow_eq_ok_iff {raw : String} {steps : List PathStep} {v w : Json} :
    follow raw steps v = .ok w ↔ v.At steps w := by
  induction steps generalizing v with
  | nil =>
    rw [follow, Json.at_nil_iff]
    exact ⟨Except.ok.inj, congrArg _⟩
  | cons step rest ih =>
    rw [follow, Json.at_cons_iff]
    simp only [← Json.from?_eq_some_iff]
    cases PathStep.from? v step with
    | none => simp
    | some u => simp [ih]

/-- Following steps fails at the first one that leads nowhere from where those before it lead. -/
theorem follow_eq_error_iff {raw : String} {steps : List PathStep} {v : Json} {e : VariableError} :
    follow raw steps v = .error e ↔
      ∃ before step after u, steps = before ++ step :: after ∧ v.At before u ∧
        (∀ w, ¬u.At [step] w) ∧ e = nowhere raw step := by
  induction steps generalizing v with
  | nil => simp [follow]
  | cons step rest ih =>
    rw [follow]
    cases hu : PathStep.from? v step with
    | none =>
      have hnone := Json.from?_eq_none_iff.1 hu
      constructor
      · intro h
        exact ⟨[], step, rest, v, rfl, .here v, hnone, (Except.error.inj h).symm⟩
      · rintro ⟨before, step', after, u, hsteps, hbefore, -, rfl⟩
        cases before with
        | nil =>
          obtain rfl := (List.cons.inj hsteps).1
          rfl
        | cons s before =>
          obtain rfl := (List.cons.inj hsteps).1
          obtain ⟨x, hx, -⟩ := Json.at_cons_iff.1 hbefore
          exact absurd hx (hnone x)
    | some u =>
      have hstep := Json.from?_eq_some_iff.1 hu
      dsimp only
      rw [ih]
      constructor
      · rintro ⟨before, step', after, x, rfl, hbefore, hnone, rfl⟩
        exact ⟨step :: before, step', after, x, rfl, Json.at_cons_iff.2 ⟨u, hstep, hbefore⟩,
          hnone, rfl⟩
      · rintro ⟨before, step', after, x, hsteps, hbefore, hnone, rfl⟩
        cases before with
        | nil =>
          obtain rfl := (List.cons.inj hsteps).1
          obtain rfl := Json.at_nil_iff.1 hbefore
          exact absurd hstep (hnone u)
        | cons s before =>
          obtain ⟨rfl, rfl⟩ := List.cons.inj hsteps
          obtain ⟨y, hy, hbefore⟩ := Json.at_cons_iff.1 hbefore
          obtain rfl : u = y := Option.some.inj (hu.symm.trans (Json.from?_eq_some_iff.2 hy))
          exact ⟨before, step', after, x, rfl, hbefore, hnone, rfl⟩

end JsonPath

def PathStep.IsPlain : PathStep → Prop
  | .field name => name ≠ "" ∧ ∀ c ∈ name.toList, c ≠ '.' ∧ c ≠ '[' ∧ c ≠ ']'
  | .index n => n < Nat.pow 2 64

/-- Steps that a path can spell, the last of which is no field with a blank at its end. -/
@[ext] structure Descent where
  steps : List PathStep
  plain : ∀ step ∈ steps, step.IsPlain
  unpadded : ∀ name, steps.getLast? = some (.field name) →
    ∀ c, name.toList.getLast? = some c → Text.isBlank c = false

namespace Descent

def stepText : PathStep → List Char
  | .field name => '.' :: name.toList
  | .index n => '[' :: Nat.toDigits 10 n ++ [']']

/-- A dollar sign, fields behind points and indexes in brackets. -/
def written (d : Descent) : List Char := '$' :: d.steps.flatMap stepText

theorem numeral_toDigits (n : Nat) : Text.Numeral (Nat.toDigits 10 n) n :=
  ⟨Nat.toDigits 10 n, .inl rfl, Nat.toDigits_ne_nil,
    fun _ => Nat.isDigit_of_mem_toDigits (by decide) (by decide), Nat.ofDigitChars_ten_toDigits⟩

theorem indexes_toDigits {n : Nat} (h : n < Nat.pow 2 64) :
    JsonPath.Indexes (Nat.toDigits 10 n) n := by
  have hdigit : ∀ c ∈ Nat.toDigits 10 n, c.isDigit = true := fun _ =>
    Nat.isDigit_of_mem_toDigits (by decide) (by decide)
  have hblank : ∀ c ∈ Nat.toDigits 10 n, Text.isBlank c = false := fun c hc =>
    Text.isBlank_of_isDigit (hdigit c hc)
  refine ⟨fun hclose => ?_, ⟨_, Text.trims_of_forall hblank, numeral_toDigits n⟩, h⟩
  exact absurd (hdigit _ hclose) (by decide)

/-- Steps that a path can spell are written as items, the first of which does not stand first. -/
theorem items_flatMap {steps : List PathStep} (h : ∀ step ∈ steps, step.IsPlain) :
    JsonPath.Items false (steps.flatMap stepText) steps := by
  induction steps with
  | nil => exact .done
  | cons step rest ih =>
    have hrest := ih fun s hs => h s (List.mem_cons_of_mem _ hs)
    have hstep := h step List.mem_cons_self
    rw [List.flatMap_cons]
    cases step with
    | field name =>
      obtain ⟨hne, hname⟩ := hstep
      have hchars : ∀ c ∈ name.toList, JsonPath.isFieldChar c = true := fun c hc => by
        simpa [JsonPath.isFieldChar, and_assoc] using hname c hc
      have hfield := JsonPath.Items.field (by simpa using hne) hchars hrest
      rw [String.ofList_toList] at hfield
      exact .point hfield
    | index n =>
      have hindex : JsonPath.Items false _ (.index n :: rest) :=
        .index (indexes_toDigits hstep) hrest
      simpa [stepText] using hindex

/-- Behind a dollar sign the point of a first field may be left out. -/
theorem spells_of_items {text : List Char} {steps : List PathStep}
    (h : JsonPath.Items false text steps) : JsonPath.Spells ('$' :: text) steps := by
  cases h with
  | done => exact ⟨[], ⟨[], .inl rfl, .inr ⟨rfl, nofun⟩⟩, .done⟩
  | point h => exact ⟨_, ⟨_, .inl rfl, .inl rfl⟩, h⟩
  | index hindex h => exact ⟨_, ⟨_, .inl rfl, .inr ⟨rfl, by simp⟩⟩, .index hindex h⟩

variable (d : Descent)

theorem trims_written : Text.Trims d.written d.written := by
  refine Text.trims_iff.2 ⟨⟨[], [], by simp, by simp⟩, fun c hc => ?_, fun c hc => ?_⟩
  · obtain rfl := Option.some.inj hc
    decide
  · rcases List.eq_nil_or_concat d.steps with hnil | ⟨before, step, hsteps⟩
    · rw [written, hnil] at hc
      obtain rfl := Option.some.inj hc
      decide
    · rw [List.concat_eq_append] at hsteps
      have hlast : d.steps.getLast? = some step := by simp [hsteps]
      have hwritten : d.written = ('$' :: before.flatMap stepText) ++ stepText step := by
        simp [written, hsteps]
      rw [hwritten, List.getLast?_append] at hc
      cases step with
      | field name =>
        have hplain := d.plain _ (List.mem_of_getLast? hlast)
        have hne : name.toList ≠ [] := by simpa using hplain.1
        obtain ⟨x, more, hx⟩ := List.exists_cons_of_ne_nil hne
        refine d.unpadded name hlast c ?_
        simpa [stepText, hx] using hc
      | index n =>
        have hclose : (stepText (.index n)).getLast? = some ']' := List.getLast?_concat
        rw [hclose] at hc
        obtain rfl := Option.some.inj hc
        decide

theorem parse_written :
    JsonPath.parse (.ofList d.written) = .ok ⟨.ofList d.written, d.steps⟩ := by
  have hsteps := JsonPath.steps?_body_eq_some_iff.2 (spells_of_items (items_flatMap d.plain))
  rw [JsonPath.parse_eq, String.toList_ofList, d.trims_written.trim_eq, written, hsteps]

/-- A dollar sign, a point and a name are the path of one field. -/
theorem parse_field {name : String} (hplain : (PathStep.field name).IsPlain)
    (hlast : ∀ c, name.toList.getLast? = some c → Text.isBlank c = false) :
    JsonPath.parse ("$." ++ name) = .ok ⟨"$." ++ name, [.field name]⟩ := by
  let d : Descent :=
    { steps := [.field name]
      plain := by simpa using hplain
      unpadded := by
        intro other hother
        obtain rfl : name = other := by simpa using hother
        exact hlast }
  have hwritten : String.ofList d.written = "$." ++ name := by
    rw [← String.toList_inj]
    simp [written, stepText, d]
  have hparse := d.parse_written
  rwa [hwritten] at hparse

def absence (d : Descent) : PathStep → String
  | .field name => "Field '" ++ name ++ "' not found in JSON (" ++ .ofList d.written ++ ")"
  | .index n => "Array index " ++ toString n ++ " out of bounds (" ++ .ofList d.written ++ ")"

/-- The text of a descent is a path of just its steps, and no other descent has a text with that
path. From any value it leads to what stands there at the end of the descent; when nothing does, the
first step that is not there is named. -/
theorem written_descent_leads (v : Json) :
    ∃ p, JsonPath.parse (.ofList d.written) = .ok p ∧ p.steps = d.steps ∧
      (∀ d' : Descent, JsonPath.parse (.ofList d'.written) = .ok p → d' = d) ∧
      (∀ w, p.evaluate v = .ok w ↔ v.At d.steps w) ∧
      ∀ e, p.evaluate v = .error e ↔
        ∃ before step after u, d.steps = before ++ step :: after ∧ v.At before u ∧
          (∀ w, ¬u.At [step] w) ∧ e = .undefined (d.absence step) := by
  have hnowhere : ∀ step,
      JsonPath.nowhere (.ofList d.written) step = .undefined (d.absence step) := by
    intro step
    cases step <;> rfl
  refine ⟨_, d.parse_written, rfl, fun d' h => ?_, fun w => JsonPath.follow_eq_ok_iff, fun e => ?_⟩
  · have hpath := Except.ok.inj (d'.parse_written.symm.trans h)
    exact Descent.ext (congrArg JsonPath.steps hpath)
  · simp only [JsonPath.evaluate, JsonPath.follow_eq_error_iff, hnowhere]

/-- A field with a blank inside, behind an index, is found where it is and named where it is not. -/
theorem nested_descent_leads :
    let steps : List PathStep := [.field "items", .index 1, .field "a b"]
    let inner : Json := .obj [("a b", .str "x")]
    ∃ d : Descent, d.steps = steps ∧ d.written = "$.items[1].a b".toList ∧
      ∃ p, JsonPath.parse (.ofList d.written) = .ok p ∧
        p.evaluate (.obj [("items", .arr [.null, inner])]) = .ok (.str "x") ∧
        p.evaluate (.obj [("items", .arr [inner])]) =
          .error (.undefined "Array index 1 out of bounds ($.items[1].a b)") := by
  intro steps inner
  let d : Descent :=
    { steps
      plain := by
        have hplain : ∀ name ∈ ["items", "a b"],
            name ≠ "" ∧ ∀ c ∈ name.toList, c ≠ '.' ∧ c ≠ '[' ∧ c ≠ ']' := by simp
        intro step hstep
        obtain rfl | rfl | rfl : step = .field "items" ∨ step = .index 1 ∨ step = .field "a b" := by
          simpa [steps] using hstep
        · exact hplain "items" (by simp)
        · exact (by decide : 1 < Nat.pow 2 64)
        · exact hplain "a b" (by simp)
      unpadded := by
        intro name hname c hc
        cases hname
        obtain rfl : 'b' = c := Option.some.inj hc
        decide }
  have hgone : ∀ w, ¬(Json.arr [inner]).At [.index 1] w := by
    intro w hw
    cases hw with
    | item hu h => cases hu
  obtain ⟨p, hparse, -, -, hfound, -⟩ :=
    d.written_descent_leads (.obj [("items", .arr [.null, inner])])
  obtain ⟨p', hparse', -, -, -, hlost⟩ := d.written_descent_leads (.obj [("items", .arr [inner])])
  obtain rfl := Except.ok.inj (hparse.symm.trans hparse')
  refine ⟨d, rfl, by decide, p, hparse, (hfound _).2 ?_, (hlost _).2 ?_⟩
  · exact .field rfl (.item rfl (.field rfl (.here _)))
  · exact ⟨[.field "items"], .index 1, [.field "a b"], .arr [inner], rfl,
      .field rfl (.here _), hgone, by decide⟩

end Descent

end ApiSuite
