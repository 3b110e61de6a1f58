import ApiSuite.Proofs.BuildPass
import ApiSuite.Proofs.Descent

/-! # Paths into substituted values

Substituting in a value changes its string leaves and nothing else. A path therefore leads to the
same place before and after it, where the substituted value of what stood there is found, or it
stops at the same step in both.
-/
namespace ApiSuite

namespace Json

theorem mapItems_eq_map (f : String → String) (items : List Json) :
    mapItems f items = items.map (mapStrings f) := by
  induction items with
  | nil => rfl
  | cons v rest ih => rw [mapItems, List.map_cons, ih]

theorem mapFields_eq_map (f : String → String) (fields : List (String × Json)) :
    mapFields f fields = fields.map fun e => (e.1, e.2.mapStrings f) := by
  induction fields with
  | nil => rfl
  | cons e rest ih => rw [mapFields, List.map_cons, ih]

theorem field?_mapStrings (f : String → String) (name : String) (v : Json) :
    (v.mapStrings f).field? name = (v.field? name).map (mapStrings f) := by
  cases v with
  | obj fields => rw [mapStrings, mapFields_eq_map, field?, field?, Entries.get?_map]
  | null | bool _ | num _ | str _ | arr _ => rfl

theorem item?_mapStrings (f : String → String) (n : Nat) (v : Json) :
    (v.mapStrings f).item? n = (v.item? n).map (mapStrings f) := by
  cases v with
  | arr items => rw [mapStrings, mapItems_eq_map, item?, item?, List.getElem?_map]
  | null | bool _ | num _ | str _ | obj _ => rfl

theorem strings_subset_of_mem_items {items : List Json} {u : Json} (h : u ∈ items) :
    u.strings ⊆ stringsOfItems items := by
  induction items with
  | nil => cases h
  | cons v rest ih =>
    rw [stringsOfItems]
    rcases List.mem_cons.1 h with rfl | h
    · exact List.subset_append_left _ _
    · exact List.Subset.trans (ih h) (List.subset_append_right _ _)

theorem strings_subset_of_get? {fields : List (String × Json)} {name : String} {u : Json}
    (h : Entries.get? fields name = some u) : u.strings ⊆ stringsOfFields fields := by
  induction fields with
  | nil => cases h
  | cons e rest ih =>
    rw [Entries.get?] at h
    rw [stringsOfFields]
    split at h
    · rw [← Option.some.inj h]
      exact List.subset_append_left _ _
    · exact List.Subset.trans (ih h) (List.subset_append_right _ _)

/-- What stands in a value has no strings that the value does not have. -/
theorem At.strings_subset {v u : Json} {steps : List PathStep} (h : v.At steps u) :
    u.strings ⊆ v.strings := by
  induction h with
  | here => exact List.Subset.refl _
  | field hu _ ih =>
    rw [strings]
    exact List.Subset.trans ih (strings_subset_of_get? hu)
  | item hu _ ih =>
    rw [strings]
    exact List.Subset.trans ih (strings_subset_of_mem_items (List.mem_of_getElem? hu))

end Json

namespace JsonPath

theorem from?_mapStrings (f : String → String) (v : Json) (step : PathStep) :
    PathStep.from? (v.mapStrings f) step = (PathStep.from? v step).map (Json.mapStrings f) := by
  cases step with
  | field name => exact Json.field?_mapStrings f name v
  | index n => exact Json.item?_mapStrings f n v

/-- Following steps commutes with changing string leaves, also where the steps lead nowhere. -/
theorem follow_mapStrings (f : String → String) (raw : String) (steps : List PathStep) (v : Json) :
    follow raw steps (v.mapStrings f) = (follow raw steps v).map (Json.mapStrings f) := by
  induction steps generalizing v with
  | nil => rfl
  | cons step rest ih =>
    rw [follow, follow, from?_mapStrings]
    cases PathStep.from? v step with
    | none => rfl
    | some u => exact ih u

end JsonPath

namespace Store

variable {α : Type} (s : Store)

theorem outcome_pass_eq_ok_iff {names : List String} {x y : α} :
    (s.pass names x).outcome = .ok y ↔ (s.policy = .fail → s.unbound names = []) ∧ x = y := by
  unfold pass
  cases s.policy with
  | leaveAsIs => simp
  | empty => simp
  | fail => cases s.unbound names <;> simp

theorem outcome_substituteJson_eq_ok_iff {v w : Json} :
    (s.substituteJson v).outcome = .ok w ↔
      (s.policy = .fail → s.unbound (v.strings.flatMap placeholders) = []) ∧
        v.mapStrings s.filled = w := by
  rw [substituteJson_eq, outcome_pass_eq_ok_iff]

theorem outcome_substitute_eq_ok_iff {text result : String} :
    (s.substitute text).outcome = .ok result ↔
      (s.policy = .fail → s.unbound (placeholders text) = []) ∧ s.filled text = result := by
  rw [substitute_eq, outcome_pass_eq_ok_iff]

/-- When all texts can be filled, some of them can. -/
theorem unbound_flatMap_of_subset {leaves more : List String} (hsub : leaves ⊆ more)
    (h : s.unbound (more.flatMap placeholders) = []) :
    s.unbound (leaves.flatMap placeholders) = [] := by
  rw [unbound_eq_nil_iff] at h ⊢
  intro name hname
  obtain ⟨leaf, hleaf, hn⟩ := List.mem_flatMap.1 hname
  exact h name (List.mem_flatMap.2 ⟨leaf, hsub hleaf, hn⟩)

/-- A path leads into a substituted value where it leads in the value before, and what it finds is
the substituted value of what it finds there. Where it leads nowhere, both give the same error. The
two values agree in all but their strings, each of which is the substitution of the other. -/
theorem substituted_paths_lead {v w : Json} (h : (s.substituteJson v).outcome = .ok w) :
    (∀ (p : JsonPath) (u : Json), p.evaluate v = .ok u →
      ∃ x, (s.substituteJson u).outcome = .ok x ∧ p.evaluate w = .ok x) ∧
    (∀ (p : JsonPath) (e : VariableError), p.evaluate v = .error e ↔ p.evaluate w = .error e) ∧
    v.Leafwise (fun leaf text => (s.substitute leaf).outcome = .ok text) w := by
  obtain ⟨hbound, rfl⟩ := s.outcome_substituteJson_eq_ok_iff.1 h
  have hcommutes : ∀ p : JsonPath,
      p.evaluate (v.mapStrings s.filled) = (p.evaluate v).map (Json.mapStrings s.filled) :=
    fun p => JsonPath.follow_mapStrings s.filled p.raw p.steps v
  have hpart : ∀ leaves ⊆ v.strings,
      s.policy = .fail → s.unbound (leaves.flatMap placeholders) = [] := fun leaves hleaves hp =>
    s.unbound_flatMap_of_subset hleaves (hbound hp)
  refine ⟨fun p u hu => ?_, fun p e => ?_, Json.leafwise_mapStrings v fun leaf hleaf => ?_⟩
  · have hat : v.At p.steps u := JsonPath.follow_eq_ok_iff.1 hu
    refine ⟨u.mapStrings s.filled, ?_, ?_⟩
    · exact s.outcome_substituteJson_eq_ok_iff.2 ⟨hpart u.strings hat.strings_subset, rfl⟩
    · rw [hcommutes, hu]
      rfl
  · rw [hcommutes]
    cases p.evaluate v with
    | ok u => exact ⟨nofun, nofun⟩
    | error e' => exact Iff.rfl
  · have hnames := hpart [leaf] fun text ht => List.mem_singleton.1 ht ▸ hleaf
    rw [List.flatMap_singleton] at hnames
    exact s.outcome_substitute_eq_ok_iff.2 ⟨hnames, rfl⟩

/-- A key that looks like a placeholder is found by its own name, and a text that looks like a step
does not lead anywhere. -/
theorem path_leads_by_unchanged_key :
    let s := (Store.new .fail).set "x" "a"
    let doc (text : String) : Json :=
      .obj [("a", .arr [.num (.int 3), .null]), ("\x7b\x7bx\x7d\x7d", .arr [.str text])]
    let key : JsonPath := ⟨"$.\x7b\x7bx\x7d\x7d[0]", [.field "\x7b\x7bx\x7d\x7d", .index 0]⟩
    let absent : JsonPath := ⟨"$.a[2]", [.field "a", .index 2]⟩
    (s.substituteJson (doc "<\x7b\x7b x \x7d\x7d>")).outcome = .ok (doc "<a>") ∧
      (∃ x, (s.substituteJson (.str "<\x7b\x7b x \x7d\x7d>")).outcome = .ok x ∧
        key.evaluate (doc "<a>") = .ok x) ∧
      absent.evaluate (doc "<a>") =
        .error (.undefined "Array index 2 out of bounds ($.a[2])") := by
  intro s doc key absent
  have hdoc : (s.substituteJson (doc "<\x7b\x7b x \x7d\x7d>")).outcome = .ok (doc "<a>") :=
    s.outcome_substituteJson_eq_ok_iff.2 ⟨fun _ => by decide +kernel, by decide +kernel⟩
  obtain ⟨hfound, hlost, -⟩ := s.substituted_paths_lead hdoc
  exact ⟨hdoc, hfound key _ rfl, (hlost absent _).1 rfl⟩

end Store

end ApiSuite
