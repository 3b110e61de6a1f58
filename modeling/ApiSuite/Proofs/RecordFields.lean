import ApiSuite.Json.Decoder
import Mathlib.Data.List.Forall2

/-! # Records from objects

A decoding in steps succeeds when each of its steps does, and a list decodes item by item. An object
whose keys are all different spells a record when each of its fields that the record knows decodes
and every required field is there. A field of the record then holds what its own key holds, in
whatever order the keys come.
-/
namespace ApiSuite

variable {α β : Type}

section Results

variable {ε : Type} {x : Except ε α} {f : α → Except ε β}

theorem bind_eq_ok_iff {b : β} : (x >>= f) = .ok b ↔ ∃ a, x = .ok a ∧ f a = .ok b := by
  change x.bind f = _ ↔ _
  cases x <;> simp [Except.bind]

theorem bind_eq_error_iff {e : ε} :
    (x >>= f) = .error e ↔ x = .error e ∨ ∃ a, x = .ok a ∧ f a = .error e := by
  change x.bind f = _ ↔ _
  cases x <;> simp [Except.bind]

theorem mapM_eq_ok_iff {xs : List α} {ys : List β} :
    xs.mapM f = .ok ys ↔ List.Forall₂ (fun x y => f x = .ok y) xs ys := by
  induction xs generalizing ys with
  | nil => cases ys <;> simp [pure, Except.pure]
  | cons x rest ih =>
    rw [List.mapM_cons, bind_eq_ok_iff, List.forall₂_cons_left_iff]
    constructor
    · rintro ⟨y, hy, htail⟩
      obtain ⟨more, hmore, heq⟩ := bind_eq_ok_iff.1 htail
      exact ⟨y, more, hy, ih.1 hmore, (Except.ok.inj heq).symm⟩
    · rintro ⟨y, more, hy, hmore, rfl⟩
      exact ⟨y, hy, bind_eq_ok_iff.2 ⟨more, ih.2 hmore, rfl⟩⟩

end Results

namespace Json

namespace Decoder

theorem string_ofJson_eq_ok_iff {v : Json} {s : String} : string.ofJson v = .ok s ↔ v = .str s := by
  cases v <;> simp [string]

theorem bool_ofJson_eq_ok_iff {v : Json} {b : Bool} : bool.ofJson v = .ok b ↔ v = .bool b := by
  cases v <;> simp [bool]

theorem listOf_ofJson_eq_ok_iff {d : Decoder α} {v : Json} {xs : List α} :
    (listOf d).ofJson v = .ok xs ↔
      ∃ items, v = .arr items ∧ List.Forall₂ (fun w x => d.ofJson w = .ok x) items xs := by
  cases v with
  | arr items =>
    simp only [Json.arr.injEq, exists_eq_left']
    exact mapM_eq_ok_iff
  | _ => simp [listOf]

theorem map_ofJson_eq_ok_iff {d : Decoder β} {f : β → α} {v : Json} {x : α} :
    (d.map f).ofJson v = .ok x ↔ ∃ y, d.ofJson v = .ok y ∧ f y = x := by
  change f <$> d.ofJson v = .ok x ↔ _
  cases d.ofJson v <;> simp [Functor.map, Except.map]

theorem boundedNat_eq_ok_iff {limit : Nat} {type : String} {number : Number} {n : Nat} :
    boundedNat limit type number = .ok n ↔ number = .int n ∧ n < limit := by
  cases number with
  | real x => simp [boundedNat]
  | int z =>
    rw [boundedNat, Number.int.injEq]
    split
    · rw [Except.ok.injEq]
      omega
    · constructor
      · nofun
      · omega

theorem unsigned_ofJson_eq_ok_iff {limit : Nat} {type : String} {v : Json} {n : Nat} :
    (unsigned limit type).ofJson v = .ok n ↔ v = .num (.int n) ∧ n < limit := by
  cases v with
  | num number =>
    rw [Json.num.injEq]
    exact boundedNat_eq_ok_iff
  | _ => simp [unsigned]

theorem uint64_ofJson_eq_ok_iff {v : Json} {n : UInt64} :
    uint64.ofJson v = .ok n ↔ v = .num (.int n.toNat) := by
  rw [uint64, map_ofJson_eq_ok_iff]
  simp only [unsigned_ofJson_eq_ok_iff, Nat.pow_eq]
  constructor
  · rintro ⟨m, ⟨rfl, hlt⟩, rfl⟩
    rw [UInt64.toNat_ofNat_of_lt' hlt]
  · rintro rfl
    exact ⟨n.toNat, ⟨rfl, n.toNat_lt⟩, UInt64.ofNat_toNat⟩

theorem option_string_ofJson_eq_ok_iff {v : Json} {text? : Option String} :
    (option string).ofJson v = .ok text? ↔ v = text?.elim .null .str := by
  cases v <;> cases text? <;> simp [option, string, Functor.map, Except.map]

theorem mapOf_string_ofJson_eq_ok_iff {v : Json} {m : SortedMap String} :
    (mapOf string).ofJson v = .ok m ↔
      ∃ texts, v = .obj (texts.map fun t => (t.1, .str t.2)) ∧ m = .ofList texts := by
  cases v with
  | obj fields =>
    have hentry : ∀ (field : String × Json) (t : String × String),
        (do return (field.1, ← string.ofJson field.2) : Except Cause (String × String)) = .ok t ↔
          field = (t.1, .str t.2) := by
      rintro ⟨key, w⟩ ⟨name, text⟩
      rw [bind_eq_ok_iff]
      simp [string_ofJson_eq_ok_iff, pure, Except.pure]
      tauto
    simp only [mapOf]
    rw [bind_eq_ok_iff]
    refine exists_congr fun texts => and_congr ?_ ?_
    · rw [mapM_eq_ok_iff, Json.obj.injEq, ← List.forall₂_eq_eq_eq, List.forall₂_map_right_iff]
      simp only [hentry]
    · simp [pure, Except.pure, eq_comm]
  | _ => simp [mapOf]

end Decoder

theorem Field.ofJson_of_eq_ok_iff {name : String} {presence : Presence} {d : Decoder β}
    {set : β → α → α} {v : Json} {c : α → α} :
    (Field.of name presence d set).change.ofJson v = .ok c ↔
      ∃ x, d.ofJson v = .ok x ∧ set x = c :=
  Decoder.map_ofJson_eq_ok_iff

theorem Field.get_change_of {γ : Type} {name : String} {presence : Presence} {d : Decoder β}
    {set : β → α → α} {v : Json} {c : α → α}
    (hc : (Field.of name presence d set).change.ofJson v = .ok c) {get : α → γ}
    (h : ∀ z x, get (set z x) = get x) (x : α) : get (c x) = get x := by
  obtain ⟨z, -, rfl⟩ := Field.ofJson_of_eq_ok_iff.1 hc
  exact h z x

namespace Record

variable (r : Record α)

/-- Other keys are skipped, and well formed fields make a well formed record. -/
structure Lenient : Prop where
  skips : r.strict = false
  accepts : ∀ x, r.check x = none

/-- No key occurs twice, and none is among those that were seen before. -/
structure Fresh (seen : List String) (fields : List (String × Json)) : Prop where
  nodup : (fields.map Prod.fst).Nodup
  unseen : ∀ name ∈ fields.map Prod.fst, name ∉ seen

theorem fresh_of_sorted {fields : List (String × Json)} (h : Entries.Sorted fields) :
    Fresh [] fields :=
  ⟨h.nodup_keys, fun _ _ => List.not_mem_nil⟩

section Fresh

variable {seen : List String} {name : String} {v : Json} {rest : List (String × Json)}

theorem Fresh.head (h : Fresh seen ((name, v) :: rest)) : name ∉ seen :=
  h.unseen name List.mem_cons_self

theorem Fresh.notMem_tail (h : Fresh seen ((name, v) :: rest)) : name ∉ rest.map Prod.fst :=
  (List.nodup_cons.1 h.nodup).1

theorem Fresh.tail (h : Fresh seen ((name, v) :: rest)) : Fresh seen rest :=
  ⟨(List.nodup_cons.1 h.nodup).2, fun n hn => h.unseen n (List.mem_cons_of_mem _ hn)⟩

theorem Fresh.push (h : Fresh seen ((name, v) :: rest)) : Fresh (name :: seen) rest := by
  refine ⟨h.tail.nodup, fun n hn hmem => ?_⟩
  rcases List.mem_cons.1 hmem with rfl | hmem
  · exact h.notMem_tail hn
  · exact h.tail.unseen n hn hmem

end Fresh

/-- Only the field of the name changes what `get` reads. -/
def Reads (get : α → β) (name : String) : Prop :=
  ∀ f ∈ r.fields, f.name ≠ name → ∀ v c, f.change.ofJson v = .ok c → ∀ x, get (c x) = get x

variable {r} {fields : List (String × Json)} {seen : List String}

theorem fromFields_known {x : α} {name : String} {v : Json} {rest : List (String × Json)}
    {f : Field α} (hname : name ∉ seen)
    (hf : r.fields.find? (fun f => f.name == name) = some f) :
    r.fromFields seen x ((name, v) :: rest) =
      (f.change.ofJson v).bind fun c => r.fromFields (name :: seen) (c x) rest := by
  have hnew : seen.contains name = false := by simpa using hname
  rw [fromFields, hf]
  simp only [hnew]
  rfl

theorem fromFields_unknown (hr : r.Lenient) {x : α} {name : String} {v : Json}
    {rest : List (String × Json)} (hf : r.fields.find? (fun f => f.name == name) = none) :
    r.fromFields seen x ((name, v) :: rest) = r.fromFields seen x rest := by
  rw [fromFields, hf]
  simp only [hr.skips]
  rfl

theorem finish_eq_ok_iff (hr : r.Lenient) {x y : α} :
    r.finish seen x = .ok y ↔
      (∀ f ∈ r.fields, f.presence = .required → f.name ∈ seen) ∧ x = y := by
  unfold finish missing?
  cases hf : r.fields.find? fun f => f.presence == .required && !seen.contains f.name with
  | some f =>
    have hmem := List.mem_of_find?_eq_some hf
    have hlacks := List.find?_some hf
    simp only [Option.map_some, Bool.and_eq_true, beq_iff_eq, Bool.not_eq_true',
      List.contains_eq_mem, decide_eq_false_iff_not] at hlacks ⊢
    exact ⟨nofun, fun h => absurd (h.1 f hmem hlacks.1) hlacks.2⟩
  | none =>
    have hall := List.find?_eq_none.1 hf
    simp only [Bool.and_eq_true, beq_iff_eq, Bool.not_eq_true', List.contains_eq_mem,
      decide_eq_false_iff_not, not_and, Decidable.not_not] at hall
    simp only [Option.map_none, hr.accepts, Except.ok.injEq]
    exact ⟨fun h => ⟨hall, h⟩, fun h => h.2⟩

/-- An object spells a record when its known fields decode and no required field is left out. -/
theorem exists_fromFields_iff (hr : r.Lenient) {x : α} (hfresh : Fresh seen fields) :
    (∃ y, r.fromFields seen x fields = .ok y) ↔
      (∀ e ∈ fields, ∀ f, r.fields.find? (fun f => f.name == e.1) = some f →
        ∃ c, f.change.ofJson e.2 = .ok c) ∧
      ∀ f ∈ r.fields, f.presence = .required → f.name ∈ seen ∨ f.name ∈ fields.map Prod.fst := by
  induction fields generalizing seen x with
  | nil => simp [fromFields, finish_eq_ok_iff hr]
  | cons e rest ih =>
    obtain ⟨name, v⟩ := e
    rw [List.forall_mem_cons]
    simp only [List.map_cons, List.mem_cons]
    cases hf : r.fields.find? fun f => f.name == name with
    | none =>
      have hnone : ∀ f ∈ r.fields, f.name ≠ name := by simpa using List.find?_eq_none.1 hf
      rw [fromFields_unknown hr hf, ih hfresh.tail]
      refine and_congr ⟨fun h => ⟨nofun, h⟩, fun h => h.2⟩ ?_
      refine forall_congr' fun f => forall_congr' fun hmem => forall_congr' fun _ => ?_
      simp [hnone f hmem]
    | some f =>
      rw [fromFields_known hfresh.head hf]
      simp only [Option.some.injEq, forall_eq']
      cases hc : f.change.ofJson v with
      | error cause => simp [Except.bind]
      | ok c =>
        simp only [Except.bind, ih hfresh.push, List.mem_cons, Except.ok.injEq, exists_eq',
          true_and]
        refine and_congr_right fun _ => forall_congr' fun g => forall_congr' fun _ =>
          forall_congr' fun _ => ?_
        rw [or_assoc, or_left_comm]

variable {get : α → β} {name : String} {x y : α}

theorem get_fromFields_of_notMem (hr : r.Lenient) (hget : r.Reads get name)
    (h : r.fromFields seen x fields = .ok y) (hfresh : Fresh seen fields)
    (hname : name ∉ fields.map Prod.fst) : get y = get x := by
  induction fields generalizing seen x with
  | nil => rw [((finish_eq_ok_iff hr).1 h).2]
  | cons e rest ih =>
    obtain ⟨key, v⟩ := e
    rw [List.map_cons, List.mem_cons, not_or] at hname
    cases hf : r.fields.find? fun f => f.name == key with
    | none =>
      rw [fromFields_unknown hr hf] at h
      exact ih h hfresh.tail hname.2
    | some f =>
      rw [fromFields_known hfresh.head hf] at h
      cases hc : f.change.ofJson v with
      | error cause =>
        rw [hc] at h
        cases h
      | ok c =>
        rw [hc] at h
        have hkey : f.name = key := by simpa using List.find?_some hf
        have hne : f.name ≠ name := fun heq => hname.1 (heq.symm.trans hkey)
        rw [ih h hfresh.push hname.2]
        exact hget f (List.mem_of_find?_eq_some hf) hne v c hc x

/-- What only the field of a name changes is what its key holds. -/
theorem get_fromFields_of_get? (hr : r.Lenient) (hget : r.Reads get name) {f : Field α}
    (hf : r.fields.find? (fun f => f.name == name) = some f) {v : Json}
    (h : r.fromFields seen x fields = .ok y) (hfresh : Fresh seen fields)
    (hv : Entries.get? fields name = some v) :
    ∃ c z, f.change.ofJson v = .ok c ∧ get y = get (c z) := by
  induction fields generalizing seen x with
  | nil => cases hv
  | cons e rest ih =>
    obtain ⟨key, w⟩ := e
    rw [Entries.get?] at hv
    cases hg : r.fields.find? fun f => f.name == key with
    | none =>
      have hne : key ≠ name := by
        rintro rfl
        rw [hf] at hg
        cases hg
      rw [if_neg hne] at hv
      rw [fromFields_unknown hr hg] at h
      exact ih h hfresh.tail hv
    | some g =>
      rw [fromFields_known hfresh.head hg] at h
      cases hc : g.change.ofJson w with
      | error cause =>
        rw [hc] at h
        cases h
      | ok c =>
        rw [hc] at h
        split at hv
        · rename_i heq
          subst heq
          obtain rfl := Option.some.inj hv
          obtain rfl := Option.some.inj (hf.symm.trans hg)
          exact ⟨c, x, hc, get_fromFields_of_notMem hr hget h hfresh.push hfresh.notMem_tail⟩
        · exact ih h hfresh.push hv

/-- The value of a field is what its key holds, or what it was before when the key is left out. -/
theorem get_fromFields (hr : r.Lenient) (hget : r.Reads get name) {presence : Presence}
    {d : Decoder β} {set : β → α → α} (hset : ∀ z x, get (set z x) = z)
    (hf : r.fields.find? (fun f => f.name == name) = some (.of name presence d set))
    (h : r.fromFields seen x fields = .ok y) (hfresh : Fresh seen fields) :
    match Entries.get? fields name with
    | none => get y = get x
    | some v => d.ofJson v = .ok (get y) := by
  cases hv : Entries.get? fields name with
  | none => exact get_fromFields_of_notMem hr hget h hfresh (Entries.get?_eq_none_iff.1 hv)
  | some v =>
    obtain ⟨c, z, hc, hy⟩ := get_fromFields_of_get? hr hget hf h hfresh hv
    obtain ⟨value, hvalue, rfl⟩ := Field.ofJson_of_eq_ok_iff.1 hc
    rw [hy, hset]
    exact hvalue

end Record

end Json

end ApiSuite
