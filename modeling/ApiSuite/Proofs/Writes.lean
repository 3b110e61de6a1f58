import ApiSuite.Capture

/-! # Writing several bindings

Writing a list of values binds each name to its last value in the list and leaves all other names
as they were. Captures write such a list: the values of the rules before the first that fails.
-/
namespace ApiSuite

namespace Store

variable (s : Store)

theorem get?_eq_some_iff {name text : String} :
    s.get? name = some text ↔ s.binding? name = some (.text text) := by
  rw [get?]
  cases s.binding? name with
  | none => simp
  | some b => cases b <;> simp [Binding.text?]

theorem get?_eq_none_iff {name : String} :
    s.get? name = none ↔ s.binding? name = none ∨ s.binding? name = some .null := by
  rw [get?]
  cases s.binding? name with
  | none => simp
  | some b => cases b <;> simp [Binding.text?]

theorem setMany_eq (entries : List (String × String)) :
    s.setMany entries =
      ⟨s.bindings.insertMany (entries.map fun e => (e.1, .text e.2)), s.policy⟩ := by
  induction entries generalizing s with
  | nil => rfl
  | cons e rest ih => exact ih (s.set e.1 e.2)

theorem setManyJson_eq (entries : List (String × Json)) :
    s.setManyJson entries =
      ⟨s.bindings.insertMany (entries.map fun e => (e.1, .ofJson e.2)), s.policy⟩ := by
  induction entries generalizing s with
  | nil => rfl
  | cons e rest ih => exact ih (s.setJson e.1 e.2)

theorem binding?_setManyJson (entries : List (String × Json)) (name : String) :
    (s.setManyJson entries).binding? name =
      ((Entries.get? entries.reverse name).map Binding.ofJson).or (s.binding? name) := by
  rw [setManyJson_eq, binding?, SortedMap.get?_insertMany, ← List.map_reverse, Entries.get?_map,
    binding?]

theorem binding?_setManyJson_of_forall_ne {entries : List (String × Json)} {name : String}
    (h : ∀ e ∈ entries, e.1 ≠ name) : (s.setManyJson entries).binding? name = s.binding? name := by
  rw [binding?_setManyJson, Entries.get?_reverse_of_forall_ne h]
  rfl

theorem exists_of_binding?_setManyJson_ne {entries : List (String × Json)} {name : String}
    (h : (s.setManyJson entries).binding? name ≠ s.binding? name) : ∃ e ∈ entries, e.1 = name := by
  refine Decidable.byContradiction fun hnone => h ?_
  exact s.binding?_setManyJson_of_forall_ne fun e he hname => hnone ⟨e, he, hname⟩

theorem contains_setManyJson {entries : List (String × Json)} {name : String}
    (h : s.contains name = true) : (s.setManyJson entries).contains name = true := by
  rw [contains_eq_isSome] at h ⊢
  rw [binding?_setManyJson, Option.isSome_or, h, Bool.or_true]

end Store

namespace Capture

variable (r : Response)

/-- The names and values that captures write: those of the rules before the first that fails. -/
def written : List Capture → List (String × Json)
  | [] => []
  | c :: rest =>
    match c.extract r with
    | .error _ => []
    | .ok v => (c.variableName, v) :: written rest

theorem store_applyAll (s : Store) (captures : List Capture) :
    (applyAll r s captures).1 = s.setManyJson (written r captures) := by
  induction captures generalizing s with
  | nil => rfl
  | cons c rest ih =>
    rw [applyAll, written]
    cases c.extract r with
    | error e => rfl
    | ok v => exact ih (s.setJson c.variableName v)

theorem exists_of_mem_written {captures : List Capture} {e : String × Json}
    (h : e ∈ written r captures) :
    ∃ c ∈ captures, c.variableName = e.1 ∧ c.extract r = .ok e.2 := by
  induction captures with
  | nil => cases h
  | cons c rest ih =>
    rw [written] at h
    cases hc : c.extract r with
    | error _ =>
      rw [hc] at h
      cases h
    | ok v =>
      rw [hc] at h
      rcases List.mem_cons.1 h with rfl | h
      · exact ⟨c, List.mem_cons_self, rfl, hc⟩
      · obtain ⟨d, hd, hname⟩ := ih h
        exact ⟨d, List.mem_cons_of_mem _ hd, hname⟩

/-- When all captures succeed, the last one of a variable decides its binding. -/
theorem exists_binding?_applyAll {s s' : Store} {before after : List Capture} {c : Capture}
    (h : applyAll r s (before ++ c :: after) = (s', .ok ()))
    (hlast : ∀ d ∈ after, d.variableName ≠ c.variableName) :
    ∃ v, c.extract r = .ok v ∧ s'.binding? c.variableName = some (.ofJson v) := by
  -- The induction goes up to the rule; those behind it write other names only.
  induction before generalizing s with
  | nil =>
    rw [List.nil_append, applyAll] at h
    cases hc : c.extract r with
    | error e =>
      rw [hc] at h
      cases h
    | ok v =>
      rw [hc] at h
      dsimp only at h
      have hstore : s' = (s.setJson c.variableName v).setManyJson (written r after) := by
        rw [← store_applyAll, h]
      have hnone : ∀ e ∈ written r after, e.1 ≠ c.variableName := by
        intro e he
        obtain ⟨d, hd, hname, -⟩ := exists_of_mem_written r he
        exact hname ▸ hlast d hd
      refine ⟨v, rfl, ?_⟩
      rw [hstore, Store.binding?_setManyJson_of_forall_ne _ hnone, Store.setJson,
        Store.binding?_bind, if_pos rfl]
  | cons d before ih =>
    rw [List.cons_append, applyAll] at h
    cases hd : d.extract r with
    | error e =>
      rw [hd] at h
      cases h
    | ok v =>
      rw [hd] at h
      exact ih h

end Capture

end ApiSuite
