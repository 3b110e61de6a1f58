import Mathlib.Data.List.Basic

/-! # Patterns

A pattern is matched against a text from the start. A repetition can take more or fewer characters,
so that there are several ways to match; they are listed in the order in which they are preferred.
A greedy repetition prefers to take more, a lazy one to take less, and what stands earlier in the
pattern decides before what stands later. The match of a whole text is the first way that leaves
nothing of it. Only characters are repeated, never whole patterns.
-/
namespace ApiSuite

inductive Pattern where
  | one (p : Char → Bool)
  | many (p : Char → Bool)
  | few (p : Char → Bool)
  | group (x : Pattern)
  | cat (x y : Pattern)

namespace Pattern

/-- The ways to cut a text behind a run of characters, the longest run first. -/
def cuts (p : Char → Bool) : List Char → List (List Char × List Char)
  | [] => [([], [])]
  | c :: rest =>
    (if p c then (cuts p rest).map fun cut => (c :: cut.1, cut.2) else []) ++ [([], c :: rest)]

/-- A way to match the front of a text: what was taken, the texts of the groups in it, and what is
left. -/
structure Way where
  taken : List Char
  groups : List (List Char)
  rest : List Char

def Way.then (w v : Way) : Way := ⟨w.taken ++ v.taken, w.groups ++ v.groups, v.rest⟩

/-- All ways to match, the preferred one first. -/
def ways : Pattern → List Char → List Way
  | one _, [] => []
  | one p, c :: rest => if p c then [⟨[c], [], rest⟩] else []
  | many p, text => (cuts p text).map fun cut => ⟨cut.1, [], cut.2⟩
  | few p, text => (cuts p text).reverse.map fun cut => ⟨cut.1, [], cut.2⟩
  | group x, text => (x.ways text).map fun w => ⟨w.taken, w.taken :: w.groups, w.rest⟩
  | cat x y, text => (x.ways text).flatMap fun w => (y.ways w.rest).map w.then

/-- The texts of the groups in the match of a whole text. -/
def captures? (x : Pattern) (text : List Char) : Option (List (List Char)) :=
  ((x.ways text).find? fun w => w.rest.isEmpty).map Way.groups

variable {β : Type} {x y : Pattern} {p q : Char → Bool} {text : List Char}

/-- What the first way gives for which a continuation gives something. -/
def first (x : Pattern) (text : List Char) (k : Way → Option β) : Option β :=
  (x.ways text).findSome? k

theorem findSome?_cons {α : Type} (k : α → Option β) (w : α) (more : List α) :
    (w :: more).findSome? k = (k w).or (more.findSome? k) := by
  rw [List.findSome?_cons]
  cases k w <;> rfl

/-- Where a pattern ends: a way counts when nothing of the text is left. -/
def atEnd (g : List (List Char) → β) (w : Way) : Option β :=
  if w.rest.isEmpty then some (g w.groups) else none

theorem captures?_eq : x.captures? text = x.first text (atEnd id) := by
  rw [captures?, first]
  induction x.ways text with
  | nil => rfl
  | cons w more ih =>
    rw [List.find?_cons, List.findSome?_cons, atEnd]
    cases w.rest.isEmpty with
    | true => rfl
    | false => exact ih

/-! ## What each kind of pattern tries -/

section Tries

variable (k : Way → Option β)

theorem first_cat : (cat x y).first text k =
    x.first text fun w => y.first w.rest fun v => k (w.then v) := by
  rw [first, first, ways]
  induction x.ways text with
  | nil => rfl
  | cons w more ih =>
    rw [List.flatMap_cons, List.findSome?_append, ih, List.findSome?_map, findSome?_cons]
    rfl

theorem first_group : (group x).first text k =
    x.first text fun w => k ⟨w.taken, w.taken :: w.groups, w.rest⟩ := by
  simp only [first, ways, List.findSome?_map, Function.comp_def]

theorem first_one_cons (c : Char) (rest : List Char) :
    (one p).first (c :: rest) k = if p c then k ⟨[c], [], rest⟩ else none := by
  rw [first, ways]
  split <;> simp

theorem first_many_nil : (many p).first [] k = k ⟨[], [], []⟩ := by
  simp [first, ways, cuts]

theorem first_many_cons (c : Char) (rest : List Char) : (many p).first (c :: rest) k =
    (if p c then (many p).first rest fun w => k ⟨c :: w.taken, [], w.rest⟩ else none).or
      (k ⟨[], [], c :: rest⟩) := by
  simp only [first, ways, cuts]
  split <;> simp [List.findSome?_map, Function.comp_def]

theorem first_few_nil : (few p).first [] k = k ⟨[], [], []⟩ := by
  simp [first, ways, cuts]

theorem first_few_cons (c : Char) (rest : List Char) : (few p).first (c :: rest) k =
    (k ⟨[], [], c :: rest⟩).or
      (if p c then (few p).first rest fun w => k ⟨c :: w.taken, [], w.rest⟩ else none) := by
  simp only [first, ways, cuts]
  split <;> simp [List.findSome?_map, findSome?_cons, Function.comp_def, ← List.map_reverse]

end Tries

/-! ## Runs that have to be taken as a whole -/

/-- A greedy run is taken as a whole when nothing can go on in front of a character of its kind. -/
theorem first_many_of_stuck {k : Way → Option β}
    (h : ∀ run c rest, p c = true → k ⟨run, [], c :: rest⟩ = none) :
    (many p).first text k = k ⟨text.takeWhile p, [], text.dropWhile p⟩ := by
  induction text generalizing k with
  | nil => exact first_many_nil k
  | cons c rest ih =>
    rw [first_many_cons]
    cases hc : p c with
    | true =>
      rw [if_pos rfl, h [] c rest hc, Option.or_none, ih fun run => h (c :: run),
        List.takeWhile_cons_of_pos hc, List.dropWhile_cons_of_pos hc]
    | false =>
      have hneg : ¬p c = true := by simp [hc]
      rw [if_neg nofun, Option.none_or, List.takeWhile_cons_of_neg hneg,
        List.dropWhile_cons_of_neg hneg]

variable {g : List (List Char) → β}

theorem first_many_cat (h : ∀ c rest, p c = true → y.first (c :: rest) (atEnd g) = none) :
    (cat (many p) y).first text (atEnd g) = y.first (text.dropWhile p) (atEnd g) := by
  rw [first_cat]
  exact first_many_of_stuck fun _ => h

theorem first_group_cat_of_not {c : Char} (rest : List Char) (h : p c = false) :
    (cat (group (cat (one p) x)) y).first (c :: rest) (atEnd g) = none := by
  rw [first_cat, first_group, first_cat, first_one_cons, if_neg (by simp [h])]

/-- A group of a character and a run behind it, which has to be taken as a whole. -/
theorem first_group_cat {c : Char} {rest : List Char} (hc : p c = true)
    (h : ∀ d more (g : List (List Char) → β), q d = true → y.first (d :: more) (atEnd g) = none) :
    (cat (group (cat (one p) (many q))) y).first (c :: rest) (atEnd g) =
      y.first (rest.dropWhile q) (atEnd fun gs => g ((c :: rest.takeWhile q) :: gs)) := by
  rw [first_cat, first_group, first_cat, first_one_cons, if_pos hc]
  exact first_many_of_stuck fun run d more => h d more fun gs => g ((c :: run) :: gs)

end Pattern

end ApiSuite
