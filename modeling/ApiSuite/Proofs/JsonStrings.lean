import ApiSuite.Proofs.SubstitutionPass

/-! # String leaves of a JSON value

Substituting in a value is a pass over the placeholders of its string leaves, in the order in which
the leaves are listed. The result is the value with its leaves filled; keys, numbers and the shape
of the value stay.
-/
namespace ApiSuite

namespace Json

mutual

/-- Changes every string leaf and nothing else. -/
def mapStrings (f : String → String) : Json → Json
  | .str s => .str (f s)
  | .arr items => .arr (mapItems f items)
  | .obj fields => .obj (mapFields f fields)
  | v => v

def mapItems (f : String → String) : List Json → List Json
  | [] => []
  | v :: rest => v.mapStrings f :: mapItems f rest

def mapFields (f : String → String) : List (String × Json) → List (String × Json)
  | [] => []
  | (k, v) :: rest => (k, v.mapStrings f) :: mapFields f rest

end

mutual

theorem mapStrings_congr {f g : String → String} :
    ∀ v : Json, (∀ s ∈ v.strings, f s = g s) → v.mapStrings f = v.mapStrings g
  | .null, _ => rfl
  | .bool _, _ => rfl
  | .num _, _ => rfl
  | .str s, h => by rw [mapStrings, mapStrings, h s (by simp [strings])]
  | .arr items, h => by
    rw [mapStrings, mapStrings, mapItems_congr items fun s hs => h s (by rwa [strings])]
  | .obj fields, h => by
    rw [mapStrings, mapStrings, mapFields_congr fields fun s hs => h s (by rwa [strings])]

theorem mapItems_congr {f g : String → String} :
    ∀ items : List Json, (∀ s ∈ stringsOfItems items, f s = g s) →
      mapItems f items = mapItems g items
  | [], _ => rfl
  | v :: rest, h => by
    have hv := mapStrings_congr v fun s hs => h s (by simp [stringsOfItems, hs])
    have hrest := mapItems_congr rest fun s hs => h s (by simp [stringsOfItems, hs])
    rw [mapItems, mapItems, hv, hrest]

theorem mapFields_congr {f g : String → String} :
    ∀ fields : List (String × Json), (∀ s ∈ stringsOfFields fields, f s = g s) →
      mapFields f fields = mapFields g fields
  | [], _ => rfl
  | (k, v) :: rest, h => by
    have hv := mapStrings_congr v fun s hs => h s (by simp [stringsOfFields, hs])
    have hrest := mapFields_congr rest fun s hs => h s (by simp [stringsOfFields, hs])
    rw [mapFields, mapFields, hv, hrest]

end

/-- Two values of one shape that may differ in their string leaves, which are related one by one. -/
inductive Leafwise (R : String → String → Prop) : Json → Json → Prop
  | null : Leafwise R .null .null
  | bool (b : Bool) : Leafwise R (.bool b) (.bool b)
  | num (n : Number) : Leafwise R (.num n) (.num n)
  | str {s t : String} (h : R s t) : Leafwise R (.str s) (.str t)
  | arr {items more : List Json} (h : List.Forall₂ (Leafwise R) items more) :
    Leafwise R (.arr items) (.arr more)
  | obj {fields more : List (String × Json)} (hkeys : fields.map Prod.fst = more.map Prod.fst)
    (hvalues : List.Forall₂ (Leafwise R) (fields.map Prod.snd) (more.map Prod.snd)) :
    Leafwise R (.obj fields) (.obj more)

theorem mapFields_keys (f : String → String) (fields : List (String × Json)) :
    (mapFields f fields).map Prod.fst = fields.map Prod.fst := by
  induction fields with
  | nil => rfl
  | cons e rest ih => rw [mapFields, List.map_cons, List.map_cons, ih]

mutual

theorem leafwise_mapStrings {R : String → String → Prop} {f : String → String} :
    ∀ v : Json, (∀ s ∈ v.strings, R s (f s)) → v.Leafwise R (v.mapStrings f)
  | .null, _ => .null
  | .bool b, _ => .bool b
  | .num n, _ => .num n
  | .str s, h => .str (h s (by simp [strings]))
  | .arr items, h => .arr (leafwise_mapItems items fun s hs => h s (by rwa [strings]))
  | .obj fields, h =>
    .obj (mapFields_keys f fields).symm
      (leafwise_mapFields fields fun s hs => h s (by rwa [strings]))

theorem leafwise_mapItems {R : String → String → Prop} {f : String → String} :
    ∀ items : List Json, (∀ s ∈ stringsOfItems items, R s (f s)) →
      List.Forall₂ (Leafwise R) items (mapItems f items)
  | [], _ => .nil
  | v :: rest, h =>
    .cons (leafwise_mapStrings v fun s hs => h s (by simp [stringsOfItems, hs]))
      (leafwise_mapItems rest fun s hs => h s (by simp [stringsOfItems, hs]))

theorem leafwise_mapFields {R : String → String → Prop} {f : String → String} :
    ∀ fields : List (String × Json), (∀ s ∈ stringsOfFields fields, R s (f s)) →
      List.Forall₂ (Leafwise R) (fields.map Prod.snd) ((mapFields f fields).map Prod.snd)
  | [], _ => .nil
  | (_, v) :: rest, h =>
    .cons (leafwise_mapStrings v fun s hs => h s (by simp [stringsOfFields, hs]))
      (leafwise_mapFields rest fun s hs => h s (by simp [stringsOfFields, hs]))

end

end Json

namespace Store

variable (s : Store)

mutual

theorem substituteJson_eq : ∀ v : Json,
    s.substituteJson v = s.pass (v.strings.flatMap placeholders) (v.mapStrings s.filled)
  | .null => (s.pass_nil _).symm
  | .bool _ => (s.pass_nil _).symm
  | .num _ => (s.pass_nil _).symm
  | .str text => by
    rw [substituteJson, substitute_eq, Json.strings, Json.mapStrings, List.flatMap_singleton]
    exact s.pass_map _ _ _
  | .arr items => by
    rw [substituteJson, substituteItems_eq items, Json.strings, Json.mapStrings]
    exact s.pass_map _ _ _
  | .obj fields => by
    rw [substituteJson, substituteFields_eq fields, Json.strings, Json.mapStrings]
    exact s.pass_map _ _ _

theorem substituteItems_eq : ∀ items : List Json,
    s.substituteItems items =
      s.pass ((Json.stringsOfItems items).flatMap placeholders) (Json.mapItems s.filled items)
  | [] => (s.pass_nil _).symm
  | v :: rest => by
    rw [substituteItems, substituteJson_eq v, substituteItems_eq rest, Json.stringsOfItems,
      Json.mapItems, List.flatMap_append]
    exact s.pass_bind _ _ (s.pass_map _ _ _)

theorem substituteFields_eq : ∀ fields : List (String × Json),
    s.substituteFields fields =
      s.pass ((Json.stringsOfFields fields).flatMap placeholders) (Json.mapFields s.filled fields)
  | [] => (s.pass_nil _).symm
  | (k, v) :: rest => by
    rw [substituteFields, substituteJson_eq v, substituteFields_eq rest, Json.stringsOfFields,
      Json.mapFields, List.flatMap_append]
    exact s.pass_bind _ _ (s.pass_map _ _ _)

end

/-- Substituting in a value meets the unset names of its strings in the order in which the strings
are listed. The lenient policies warn about each of them, as often as it occurs, and the failing one
ends with the first. -/
theorem substituteJson_meets_unset (bindings : Bindings) (v : Json) :
    let unset := (v.strings.flatMap placeholders).filter fun name => !bindings.contains name
    (∃ w, (mk bindings .leaveAsIs).substituteJson v = ⟨unset.map .leftInPlace, .ok w⟩) ∧
    (∃ w, (mk bindings .empty).substituteJson v = ⟨unset.map .replacedWithEmpty, .ok w⟩) ∧
    (unset = [] → ∃ w, (mk bindings .fail).substituteJson v = ⟨[], .ok w⟩) ∧
    ∀ name more, unset = name :: more →
      (mk bindings .fail).substituteJson v = ⟨[], .error (.undefined name)⟩ := by
  intro unset
  have hunset : ∀ policy,
      (mk bindings policy).unbound (v.strings.flatMap placeholders) = unset := fun _ => rfl
  simp only [substituteJson_eq, pass, hunset]
  refine ⟨⟨_, rfl⟩, ⟨_, rfl⟩, fun h => ?_, fun name more h => ?_⟩
  · rw [h]
    exact ⟨_, rfl⟩
  · rw [h]

end Store

end ApiSuite
