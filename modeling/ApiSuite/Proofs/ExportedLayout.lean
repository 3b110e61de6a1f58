import ApiSuite.Proofs.EnvironmentSeed

/-! # Flat and exported environments

An object without a list of values and an export that lists its fields in order seed a store alike.
The export may say of its entries that they are enabled, list disabled entries among them and carry
other keys anywhere; what it seeds is the same, and so is the error when a value is a container.
-/
namespace ApiSuite

namespace EnvironmentFile

open ExportedEntry (Spelled)

/-- The plainest export of the fields of a flat environment. -/
def exported (fields : List (String × Json)) : Json :=
  .obj [(valuesKey, .arr (fields.map fun f => .obj [("key", .str f.1), ("value", f.2)]))]

/-- A list of values that exports the fields of a flat environment. An entry may have other keys
than these, and disabled entries may stand anywhere. -/
inductive Exports : List (String × Json) → List Json → Prop
  | done : Exports [] []
  | entry {key : String} {value : Json} {rest entry : List (String × Json)} {items : List Json}
    (hkey : Entries.get? entry "key" = some (.str key))
    (hvalue : Entries.get? entry "value" = some value)
    (henabled : Entries.get? entry "enabled" = none ∨
      Entries.get? entry "enabled" = some (.bool true))
    (h : Exports rest items) : Exports ((key, value) :: rest) (.obj entry :: items)
  | disabled {item : Json} {e : ExportedEntry} {rest : List (String × Json)} {items : List Json}
    (hspelled : Spelled item e) (hoff : e.enabled = false) (h : Exports rest items) :
    Exports rest (item :: items)

theorem exports_exported (fields : List (String × Json)) :
    Exports fields (fields.map fun f => .obj [("key", .str f.1), ("value", f.2)]) := by
  induction fields with
  | nil => exact .done
  | cons f rest ih => exact .entry rfl rfl (.inl rfl) ih

theorem canonical_exported {fields : List (String × Json)} (h : Json.CanonicalFields fields) :
    (exported fields).Canonical := by
  refine ⟨List.pairwise_singleton _ _, ?_, trivial⟩
  rw [Json.Canonical, Json.canonicalItems_iff]
  intro item hitem
  obtain ⟨f, hf, rfl⟩ := List.mem_map.1 hitem
  have hkeys : Entries.Sorted [("key", Json.str f.1), ("value", f.2)] :=
    List.pairwise_pair.2 (show "key" < "value" by decide)
  exact ⟨hkeys, trivial, Json.canonicalFields_iff.1 h f hf, trivial⟩

/-- The enabled entries of an export are the fields that it exports. -/
theorem Exports.exists_listed {fields : List (String × Json)} {items : List Json}
    (h : Exports fields items) :
    ∃ listed, List.Forall₂ Spelled items listed ∧ bindingsOf listed = fields := by
  induction h with
  | done => exact ⟨[], .nil, rfl⟩
  | @entry key value rest entry items hkey hvalue henabled h ih =>
    obtain ⟨listed, hlisted, hbinds⟩ := ih
    have hspelled : Spelled (.obj entry) ⟨key, value, true⟩ := by
      have hon : (Entries.get? entry "enabled").getD (.bool true) = .bool true := by
        rcases henabled with h | h <;> rw [h] <;> rfl
      have hobject := Spelled.object hkey hon
      rwa [hvalue] at hobject
    exact ⟨_, .cons hspelled hlisted, congrArg ((key, value) :: ·) hbinds⟩
  | @disabled item e rest items hspelled hoff h ih =>
    obtain ⟨listed, hlisted, hbinds⟩ := ih
    refine ⟨e :: listed, .cons hspelled hlisted, ?_⟩
    rw [bindingsOf, List.filter_cons_of_neg (by simp [hoff])]
    exact hbinds

theorem entries_flat {fields : List (String × Json)}
    (h : Entries.get? fields valuesKey = none) : entries (.obj fields) = .ok fields := by
  rw [entries, Json.field?, h]

theorem entries_of_exports {root fields : List (String × Json)} {items : List Json}
    (hc : (Json.obj root).Canonical) (hvalues : Entries.get? root valuesKey = some (.arr items))
    (h : Exports fields items) : entries (.obj root) = .ok fields := by
  obtain ⟨listed, hlisted, hbinds⟩ := h.exists_listed
  exact (entries_eq_ok_iff hc).2 ⟨listed, .exported hvalues hlisted, hbinds⟩

/-- What a store is seeded with depends on the entries that a document asks to write. -/
theorem seed_congr {raw raw' : Json} (s : Store) (h : entries raw = entries raw') :
    seed s raw = seed s raw' := by
  rw [seed, seed, plan, plan, h]

def notScalar (name : String) : EnvironmentError := .invalidFormat
  ("Variable '" ++ name ++ "' has invalid type (must be string, number, boolean, or null)")

theorem checkScalars_of_first {before after : List (String × Json)} {name : String} {v : Json}
    (hbefore : ∀ f ∈ before, isScalar f.2 = true) (hv : isScalar v = false) :
    checkScalars (before ++ (name, v) :: after) = .error (notScalar name) := by
  have hfind : (before ++ (name, v) :: after).find? (fun e => !isScalar e.2) = some (name, v) := by
    rw [List.find?_append, List.find?_eq_none.2 fun f hf => by simp [hbefore f hf], Option.none_or]
    exact List.find?_cons_of_pos (by simp [hv])
  rw [checkScalars, hfind]
  rfl

theorem seed_of_scalars {fields : List (String × Json)} (s : Store) {raw : Json}
    (h : entries raw = .ok fields) (hscalar : ∀ f ∈ fields, isScalar f.2 = true) :
    seed s raw = (s.setManyJson fields, .ok fields.length) := by
  refine seed_eq_of_plan s (bind_eq_ok_iff.2 ⟨fields, h, bind_eq_ok_iff.2 ⟨(), ?_, rfl⟩⟩)
  exact checkScalars_eq_ok_iff.2 hscalar

theorem seed_of_first {before after : List (String × Json)} {name : String} {v raw : Json}
    (s : Store) (h : entries raw = .ok (before ++ (name, v) :: after))
    (hbefore : ∀ f ∈ before, isScalar f.2 = true) (hv : isScalar v = false) :
    seed s raw = (s, .error (notScalar name)) := by
  refine seed_eq_of_refused s (bind_eq_error_iff.2 (.inr ⟨_, h, ?_⟩))
  exact bind_eq_error_iff.2 (.inl (checkScalars_of_first hbefore hv))

/-- A store is seeded with all entries of a document, or is left as it is for the first of them that
holds a container. -/
theorem seed_fields {fields : List (String × Json)} {raw : Json} (s : Store)
    (h : entries raw = .ok fields) :
    ((∀ f ∈ fields, isScalar f.2 = true) ∧
      seed s raw = (s.setManyJson fields, .ok fields.length)) ∨
    ∃ before name v after, fields = before ++ (name, v) :: after ∧
      (∀ f ∈ before, isScalar f.2 = true) ∧ isScalar v = false ∧
      seed s raw = (s, .error (notScalar name)) := by
  cases hfind : fields.find? fun f => !isScalar f.2 with
  | none =>
    have hscalar : ∀ f ∈ fields, isScalar f.2 = true := by simpa using List.find?_eq_none.1 hfind
    exact .inl ⟨hscalar, seed_of_scalars s h hscalar⟩
  | some f =>
    obtain ⟨hf, before, after, rfl, hbefore⟩ := List.find?_eq_some_iff_append.1 hfind
    have hv : isScalar f.2 = false := by simpa using hf
    have hscalar : ∀ g ∈ before, isScalar g.2 = true := fun g hg => by simpa using hbefore g hg
    exact .inr ⟨before, f.1, f.2, after, rfl, hscalar, hv, seed_of_first s h hscalar hv⟩

/-- A flat environment and all exports of its fields, the plainest one among them, do the same to a
store. When all values are scalars they write the fields; otherwise the store stays as it is and
the error names the first field that holds a container. -/
theorem seed_flat_or_exported {fields : List (String × Json)} (hc : (Json.obj fields).Canonical)
    (hflat : Entries.get? fields valuesKey = none) (s : Store) :
    seed s (exported fields) = seed s (.obj fields) ∧
    (∀ root items, (Json.obj root).Canonical →
      Entries.get? root valuesKey = some (.arr items) → Exports fields items →
      seed s (.obj root) = seed s (.obj fields)) ∧
    (((∀ f ∈ fields, isScalar f.2 = true) ∧
      seed s (.obj fields) = (s.setManyJson fields, .ok fields.length)) ∨
    ∃ before name v after, fields = before ++ (name, v) :: after ∧
      (∀ f ∈ before, isScalar f.2 = true) ∧ isScalar v = false ∧
      seed s (.obj fields) = (s, .error (notScalar name))) := by
  have hfields := entries_flat hflat
  have hexports : ∀ root items, (Json.obj root).Canonical →
      Entries.get? root valuesKey = some (.arr items) → Exports fields items →
      seed s (.obj root) = seed s (.obj fields) := fun root items hroot hvalues h =>
    seed_congr s ((entries_of_exports hroot hvalues h).trans hfields.symm)
  refine ⟨?_, hexports, seed_fields s hfields⟩
  exact hexports _ _ (canonical_exported hc.2) rfl (exports_exported fields)

/-- Two variables, exported with a name of the environment, a key of its own on one entry, and two
disabled entries that hold containers, one of them under a name that is exported as well. -/
theorem seed_export_with_disabled :
    let fields : List (String × Json) := [("a", .str "1"), ("b", .null)]
    let items : List Json := [
      .arr [.str "stale", .obj [], .bool false],
      .obj [("enabled", .bool true), ("key", .str "a"), ("type", .str "text"), ("value", .str "1")],
      .obj [("enabled", .bool false), ("key", .str "b"), ("value", .arr [])],
      .obj [("key", .str "b"), ("value", .null)]]
    let root : List (String × Json) := [("name", .str "local"), ("values", .arr items)]
    let s := (Store.new .fail).set "b" "0"
    (Json.obj fields).Canonical ∧ Entries.get? fields valuesKey = none ∧
      (Json.obj root).Canonical ∧ Entries.get? root valuesKey = some (.arr items) ∧
      Exports fields items ∧ seed s (exported fields) = seed s (.obj fields) ∧
      seed s (.obj root) = seed s (.obj fields) ∧
      seed s (.obj fields) = ((s.set "a" "1").setNull "b", .ok 2) := by
  intro fields items root s
  have hc : (Json.obj fields).Canonical := ⟨by decide, trivial, trivial, trivial⟩
  have hitems : Json.CanonicalItems items :=
    ⟨⟨trivial, ⟨by decide, trivial⟩, trivial, trivial⟩,
      ⟨by decide, trivial, trivial, trivial, trivial, trivial⟩,
      ⟨by decide, trivial, trivial, trivial, trivial⟩, ⟨by decide, trivial, trivial, trivial⟩,
      trivial⟩
  have hroot : (Json.obj root).Canonical := ⟨by decide, trivial, hitems, trivial⟩
  have hexports : Exports fields items :=
    .disabled (.full "stale" (.obj []) false) rfl <| .entry rfl rfl (.inr rfl) <|
      .disabled (.object rfl rfl) rfl <| .entry rfl rfl (.inl rfl) .done
  obtain ⟨hplain, hall, -⟩ := seed_flat_or_exported hc rfl s
  refine ⟨hc, rfl, hroot, rfl, hexports, hplain, hall root items hroot rfl hexports, ?_⟩
  exact (seed_of_scalars s (entries_flat rfl) (by simp [fields, isScalar])).trans
    (Prod.ext (by decide) rfl)

end EnvironmentFile

end ApiSuite
