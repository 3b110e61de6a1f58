/-! # Maps sorted by name

A finite map from strings keeps its entries in strictly ascending order of their names, so that two
maps with the same bindings are equal and listing needs no further sorting. The order of strings
is that of their code points, which is also the order of their UTF-8 bytes. The operations are
defined on lists of entries, because a tree of values holds such lists, and then carried by the
structure together with the order.
-/
namespace ApiSuite

universe u
variable {α : Type u}

namespace Entries

def get? (entries : List (String × α)) (name : String) : Option α :=
  match entries with
  | [] => none
  | (k, x) :: rest => if k = name then some x else get? rest name

/-- Puts an entry in its place and replaces one of the same name. -/
def insert (name : String) (value : α) : List (String × α) → List (String × α)
  | [] => [(name, value)]
  | (k, x) :: rest =>
    if name < k then (name, value) :: (k, x) :: rest
    else if name = k then (name, value) :: rest
    else (k, x) :: insert name value rest

/-- Names ascend strictly, hence none occurs twice. -/
def Sorted (entries : List (String × α)) : Prop := entries.Pairwise fun a b => a.1 < b.1

instance (entries : List (String × α)) : Decidable (Sorted entries) :=
  inferInstanceAs (Decidable (entries.Pairwise _))

/-- The sorted entries of a list in which a later entry replaces an earlier one of its name. -/
def ofList (entries : List (String × α)) : List (String × α) :=
  entries.foldl (fun acc e => insert e.1 e.2 acc) []

theorem mem_insert {name : String} {value : α} {entries : List (String × α)} {e : String × α}
    (h : e ∈ insert name value entries) : e = (name, value) ∨ e ∈ entries := by
  induction entries with
  | nil => simpa [insert] using h
  | cons head rest ih =>
    obtain ⟨k, x⟩ := head
    unfold insert at h
    split at h
    · simpa using h
    · split at h
      · rcases List.mem_cons.1 h with h | h
        · exact .inl h
        · exact .inr (List.mem_cons_of_mem _ h)
      · rcases List.mem_cons.1 h with h | h
        · exact .inr (h ▸ List.mem_cons_self)
        · exact (ih h).imp_right (List.mem_cons_of_mem _)

private theorem lt_of_not_lt_of_ne {a b : String} (h : ¬a < b) (hne : a ≠ b) : b < a := by
  apply Decidable.byContradiction
  intro h'
  exact hne (String.le_antisymm (String.not_lt.1 h') (String.not_lt.1 h))

theorem sorted_insert (name : String) (value : α) {entries : List (String × α)}
    (h : Sorted entries) : Sorted (insert name value entries) := by
  induction entries with
  | nil => simp [insert, Sorted]
  | cons head rest ih =>
    obtain ⟨k, x⟩ := head
    have hrest : Sorted rest := (List.pairwise_cons.1 h).2
    have hk : ∀ e ∈ rest, k < e.1 := (List.pairwise_cons.1 h).1
    unfold insert
    split
    · rename_i hlt
      refine List.pairwise_cons.2 ⟨?_, h⟩
      intro e he
      rcases List.mem_cons.1 he with rfl | he
      · exact hlt
      · exact String.lt_trans hlt (hk e he)
    · split
      · rename_i heq
        subst heq
        exact List.pairwise_cons.2 ⟨hk, hrest⟩
      · rename_i hnlt hne
        refine List.pairwise_cons.2 ⟨?_, ih hrest⟩
        intro e he
        rcases mem_insert he with rfl | he
        · exact lt_of_not_lt_of_ne hnlt hne
        · exact hk e he

theorem get?_insert (name : String) (value : α) (entries : List (String × α)) (other : String) :
    get? (insert name value entries) other
      = if name = other then some value else get? entries other := by
  induction entries with
  | nil => simp [insert, get?]
  | cons head rest ih =>
    obtain ⟨k, x⟩ := head
    unfold insert
    split
    · simp [get?]
    · split
      · rename_i heq
        subst heq
        by_cases h : name = other <;> simp [get?, h]
      · rename_i hne
        by_cases h : name = other
        · subst h
          have : ¬k = name := fun hk => hne hk.symm
          simp [get?, this, ih]
        · simp [get?, h, ih]

theorem get?_append (entries more : List (String × α)) (name : String) :
    get? (entries ++ more) name = (get? entries name).or (get? more name) := by
  induction entries with
  | nil => rfl
  | cons e rest ih =>
    obtain ⟨k, x⟩ := e
    rw [List.cons_append, get?, get?, ih]
    split <;> rfl

theorem get?_map {β : Type u} (f : α → β) (entries : List (String × α)) (name : String) :
    get? (entries.map fun e => (e.1, f e.2)) name = (get? entries name).map f := by
  induction entries with
  | nil => rfl
  | cons e rest ih =>
    obtain ⟨k, x⟩ := e
    rw [List.map_cons, get?, get?, ih]
    split <;> rfl

theorem get?_eq_none_iff {entries : List (String × α)} {name : String} :
    get? entries name = none ↔ name ∉ entries.map Prod.fst := by
  induction entries with
  | nil => simp [get?]
  | cons e rest ih =>
    obtain ⟨k, x⟩ := e
    rw [get?, List.map_cons, List.mem_cons, not_or, ← ih]
    split <;> simp_all [eq_comm]

theorem Sorted.nodup_keys {entries : List (String × α)} (h : Sorted entries) :
    (entries.map Prod.fst).Nodup := by
  refine List.pairwise_map.2 (List.Pairwise.imp (fun {d e} hlt heq => ?_) h)
  rw [heq] at hlt
  exact String.lt_irrefl e.1 hlt

theorem Sorted.nodup {entries : List (String × α)} (h : Sorted entries) : entries.Nodup := by
  refine List.Pairwise.imp (fun {d e} hlt heq => ?_) h
  rw [heq] at hlt
  exact String.lt_irrefl e.1 hlt

theorem get?_of_mem {entries : List (String × α)} {e : String × α}
    (hkeys : (entries.map Prod.fst).Nodup) (h : e ∈ entries) : get? entries e.1 = some e.2 := by
  induction entries with
  | nil => cases h
  | cons d rest ih =>
    rw [List.map_cons, List.nodup_cons] at hkeys
    rw [get?]
    rcases List.mem_cons.1 h with rfl | h
    · exact if_pos rfl
    · have hne : d.1 ≠ e.1 := by
        intro heq
        rw [heq] at hkeys
        exact hkeys.1 (List.mem_map_of_mem h)
      rw [if_neg hne, ih hkeys.2 h]

theorem mem_of_get? {entries : List (String × α)} {name : String} {x : α}
    (h : get? entries name = some x) : (name, x) ∈ entries := by
  induction entries with
  | nil => cases h
  | cons e rest ih =>
    obtain ⟨k, y⟩ := e
    rw [get?] at h
    split at h
    · rename_i hk
      rw [hk, Option.some.inj h]
      exact List.mem_cons_self
    · exact List.mem_cons_of_mem _ (ih h)

theorem get?_reverse_of_forall_ne {entries : List (String × α)} {name : String}
    (h : ∀ e ∈ entries, e.1 ≠ name) : get? entries.reverse name = none := by
  refine get?_eq_none_iff.2 fun hmem => ?_
  obtain ⟨e, he, hname⟩ := List.mem_map.1 hmem
  exact h e (List.mem_reverse.1 he) hname

/-- Read from behind, a list gives the last entry of a name. -/
theorem get?_reverse_eq_some_iff {entries : List (String × α)} {name : String} {x : α} :
    get? entries.reverse name = some x ↔
      ∃ front back, entries = front ++ (name, x) :: back ∧ ∀ e ∈ back, e.1 ≠ name := by
  constructor
  · intro h
    induction entries with
    | nil => cases h
    | cons e rest ih =>
      rw [List.reverse_cons, get?_append] at h
      cases hrest : get? rest.reverse name with
      | some y =>
        rw [hrest, Option.some_or] at h
        obtain ⟨front, back, hsplit, hback⟩ := ih (hrest.trans h)
        exact ⟨e :: front, back, congrArg (e :: ·) hsplit, hback⟩
      | none =>
        rw [hrest, Option.none_or] at h
        obtain ⟨k, y⟩ := e
        rw [get?] at h
        by_cases hk : k = name
        · rw [if_pos hk, Option.some.injEq] at h
          refine ⟨[], rest, by rw [hk, h, List.nil_append], fun d hd hname => ?_⟩
          refine get?_eq_none_iff.1 hrest ?_
          exact List.mem_map.2 ⟨d, List.mem_reverse.2 hd, hname⟩
        · rw [if_neg hk] at h
          cases h
  · rintro ⟨front, back, rfl, hback⟩
    have hrev : (front ++ (name, x) :: back).reverse =
        back.reverse ++ (name, x) :: front.reverse := by simp
    rw [hrev, get?_append, get?_reverse_of_forall_ne hback, Option.none_or, get?, if_pos rfl]

theorem insert_of_lt {name : String} (value : α) {entries : List (String × α)}
    (h : ∀ e ∈ entries, e.1 < name) : insert name value entries = entries ++ [(name, value)] := by
  induction entries with
  | nil => rfl
  | cons head rest ih =>
    obtain ⟨k, x⟩ := head
    have hk : k < name := h (k, x) List.mem_cons_self
    have hnot : ¬name < k := fun hlt => String.lt_irrefl k (String.lt_trans hk hlt)
    have hne : name ≠ k := fun heq => String.lt_irrefl k (by rwa [heq] at hk)
    rw [insert, if_neg hnot, if_neg hne, ih fun e he => h e (List.mem_cons_of_mem _ he)]
    rfl

theorem foldl_insert_of_sorted {entries acc : List (String × α)} (h : Sorted (acc ++ entries)) :
    entries.foldl (fun acc e => insert e.1 e.2 acc) acc = acc ++ entries := by
  induction entries generalizing acc with
  | nil => rw [List.append_nil]; rfl
  | cons e rest ih =>
    have hlt : ∀ d ∈ acc, d.1 < e.1 := fun d hd =>
      (List.pairwise_append.1 h).2.2 d hd e List.mem_cons_self
    rw [List.foldl_cons, insert_of_lt e.2 hlt]
    rw [List.append_cons] at h
    exact (ih h).trans (List.append_cons acc e rest).symm

theorem ofList_of_sorted {entries : List (String × α)} (h : Sorted entries) :
    ofList entries = entries := by
  have hfold : ofList entries = [] ++ entries := foldl_insert_of_sorted h
  rwa [List.nil_append] at hfold

end Entries

/-- A finite map from strings, as its entries in ascending order. -/
structure SortedMap (α : Type u) where
  entries : List (String × α)
  sorted : Entries.Sorted entries

namespace SortedMap

instance [DecidableEq α] : DecidableEq (SortedMap α) := fun a b =>
  decidable_of_iff (a.entries = b.entries) (by cases a; cases b; simp)

def empty : SortedMap α := ⟨[], List.Pairwise.nil⟩

instance : Inhabited (SortedMap α) := ⟨empty⟩

def get? (m : SortedMap α) (name : String) : Option α := Entries.get? m.entries name

def contains (m : SortedMap α) (name : String) : Bool := (m.get? name).isSome

def insert (m : SortedMap α) (name : String) (value : α) : SortedMap α :=
  ⟨Entries.insert name value m.entries, Entries.sorted_insert name value m.sorted⟩

def insertMany (m : SortedMap α) (entries : List (String × α)) : SortedMap α :=
  entries.foldl (fun m e => m.insert e.1 e.2) m

def ofList (entries : List (String × α)) : SortedMap α := empty.insertMany entries

def size (m : SortedMap α) : Nat := m.entries.length

def isEmpty (m : SortedMap α) : Bool := m.entries.isEmpty

def keys (m : SortedMap α) : List String := m.entries.map Prod.fst

@[simp] theorem get?_empty (name : String) : (empty : SortedMap α).get? name = none := rfl

theorem get?_insert (m : SortedMap α) (name : String) (value : α) (other : String) :
    (m.insert name value).get? other = if name = other then some value else m.get? other :=
  Entries.get?_insert name value m.entries other

variable (m : SortedMap α)

theorem insertMany_append (entries more : List (String × α)) :
    m.insertMany (entries ++ more) = (m.insertMany entries).insertMany more := List.foldl_append

/-- After writing many entries, a name has its last value among them or else the one it had. -/
theorem get?_insertMany (entries : List (String × α)) (name : String) :
    (m.insertMany entries).get? name =
      (Entries.get? entries.reverse name).or (m.get? name) := by
  induction entries generalizing m with
  | nil => rfl
  | cons e rest ih =>
    obtain ⟨k, x⟩ := e
    have hfirst : (m.insert k x).get? name = (Entries.get? [(k, x)] name).or (m.get? name) := by
      rw [get?_insert, Entries.get?, Entries.get?]
      split <;> rfl
    rw [List.reverse_cons, Entries.get?_append, Option.or_assoc, ← hfirst]
    exact ih (m.insert k x)

theorem get?_ofList (entries : List (String × α)) (name : String) :
    (ofList entries).get? name = Entries.get? entries.reverse name := by
  rw [ofList, get?_insertMany, get?_empty, Option.or_none]

theorem mem_entries_iff {name : String} {x : α} : (name, x) ∈ m.entries ↔ m.get? name = some x := by
  constructor
  · intro h
    exact Entries.get?_of_mem m.sorted.nodup_keys h
  · intro h
    exact Entries.mem_of_get? h

theorem mem_keys_iff {name : String} : name ∈ m.keys ↔ ∃ x, m.get? name = some x := by
  rw [keys, List.mem_map]
  constructor
  · rintro ⟨⟨k, x⟩, he, rfl⟩
    exact ⟨x, m.mem_entries_iff.1 he⟩
  · rintro ⟨x, hx⟩
    exact ⟨(name, x), m.mem_entries_iff.2 hx, rfl⟩

theorem pairwise_keys : m.keys.Pairwise (· < ·) := List.pairwise_map.2 m.sorted

theorem ext_get? {m m' : SortedMap α} (h : ∀ name, m.get? name = m'.get? name) : m = m' := by
  have hmem : ∀ e, e ∈ m.entries ↔ e ∈ m'.entries := by
    intro e
    rw [m.mem_entries_iff, m'.mem_entries_iff, h]
  have hperm : m.entries.Perm m'.entries :=
    (List.perm_ext_iff_of_nodup m.sorted.nodup m'.sorted.nodup).2 hmem
  have heq : m.entries = m'.entries := by
    refine hperm.eq_of_pairwise (fun a b _ _ hab hba => ?_) m.sorted m'.sorted
    exact absurd (String.lt_trans hab hba) (String.lt_irrefl a.1)
  cases m
  cases m'
  cases heq
  rfl

/-- In whatever order its entries are listed, they make the same map. -/
theorem ofList_of_perm {listing : List (String × α)} (h : listing.Perm m.entries) :
    ofList listing = m := by
  have hkeys : (listing.map Prod.fst).Nodup :=
    (h.map Prod.fst).nodup_iff.2 m.sorted.nodup_keys
  have hreverse : (listing.reverse.map Prod.fst).Nodup := by
    rw [List.map_reverse]
    exact List.pairwise_reverse.2 (hkeys.imp Ne.symm)
  refine ext_get? fun name => Option.ext fun x => ?_
  rw [get?_ofList, ← m.mem_entries_iff, ← h.mem_iff, ← List.mem_reverse]
  exact ⟨Entries.mem_of_get?, Entries.get?_of_mem hreverse⟩

theorem ofList_entries : ofList m.entries = m := m.ofList_of_perm (List.Perm.refl m.entries)

end SortedMap

end ApiSuite
