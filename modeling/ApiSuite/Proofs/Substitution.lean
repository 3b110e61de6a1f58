import ApiSuite.Proofs.SubstitutionPass
import ApiSuite.Proofs.Trimming
import Mathlib.Data.List.Forall2

/-! # What substitution replaces

Substitution replaces the occurrences of placeholders in a text, all of them and nothing else. The
text that a binding puts in the place of a placeholder is not read again.
-/
namespace ApiSuite

/-- The names of the placeholders: each is an inner text without the blanks at its ends. -/
def Layout.Names (d : Layout) (names : List String) : Prop :=
  List.Forall₂ (fun p name => Text.Trims p.1 name.toList) d.tail names

namespace Store

variable {α : Type} (s : Store)

def Unset (name : String) : Prop := ∀ b, (name, b) ∉ s.bindings.entries

/-- What is put in the place of a placeholder with this inner text that has the name. -/
inductive Replaces (inner : List Char) (name : String) : List Char → Prop
  | text {value : String} (h : (name, .text value) ∈ s.bindings.entries) :
    Replaces inner name value.toList
  | null (h : (name, .null) ∈ s.bindings.entries) : Replaces inner name "null".toList
  | leftInPlace (h : s.Unset name) (hpolicy : s.policy = .leaveAsIs) :
    Replaces inner name (Piece.braced inner)
  | removed (h : s.Unset name) (hpolicy : s.policy = .empty) : Replaces inner name []

theorem outcome_pass (names : List String) (x : α) :
    (s.pass names x).outcome =
      match s.policy, names.find? fun name => !s.contains name with
      | .fail, some name => .error (.undefined name)
      | _, _ => .ok x := by
  have hfirst : names.find? (fun name => !s.contains name) = (s.unbound names).head? :=
    List.head?_filter.symm
  rw [hfirst]
  unfold pass
  cases s.policy with
  | leaveAsIs => rfl
  | empty => rfl
  | fail => cases s.unbound names <;> rfl

variable {s}

theorem unset_iff {name : String} : s.Unset name ↔ s.binding? name = none := by
  simp only [Unset, SortedMap.mem_entries_iff, Option.eq_none_iff_forall_not_mem, binding?,
    Option.mem_def]

theorem contains_eq_false_iff {name : String} : s.contains name = false ↔ s.Unset name := by
  rw [unset_iff, contains_eq_isSome, Option.isSome_eq_false_iff, Option.isNone_iff_eq_none]

theorem contains_iff {name : String} : s.contains name = true ↔ ¬s.Unset name := by
  rw [← contains_eq_false_iff, Bool.not_eq_false]

theorem nameOf_eq_of_trims {inner : List Char} {name : String}
    (h : Text.Trims inner name.toList) : Piece.nameOf inner = name := by
  rw [Piece.nameOf, h.trim_eq, String.ofList_toList]

theorem names_names (d : Layout) : d.Names d.names := by
  rw [Layout.Names, Layout.names, List.forall₂_map_right_iff, List.forall₂_same]
  intro p _
  rw [Piece.nameOf, String.toList_ofList]
  exact Text.trims_trim p.1

theorem replaces_replacement {inner : List Char} {name : String}
    (hname : Text.Trims inner name.toList) (h : s.policy ≠ .fail ∨ ¬s.Unset name) :
    s.Replaces inner name (s.replacement inner) := by
  rw [replacement, nameOf_eq_of_trims hname]
  cases hb : s.binding? name with
  | some b =>
    have hmem : (name, b) ∈ s.bindings.entries := s.bindings.mem_entries_iff.2 hb
    cases b with
    | text value => exact .text hmem
    | null => exact .null hmem
  | none =>
    have hunset : s.Unset name := unset_iff.2 hb
    cases hpolicy : s.policy with
    | leaveAsIs => exact .leftInPlace hunset hpolicy
    | empty => exact .removed hunset hpolicy
    | fail => exact absurd hpolicy (h.resolve_right (not_not_intro hunset))

theorem outcome_pass_of_first {front back : List String} {name : String} {x : α}
    (hpolicy : s.policy = .fail) (hfront : ∀ n ∈ front, ¬s.Unset n) (hname : s.Unset name) :
    (s.pass (front ++ name :: back) x).outcome = .error (.undefined name) := by
  have hfind : (front ++ name :: back).find? (fun n => !s.contains n) = some name := by
    refine List.find?_eq_some_iff_append.2 ⟨?_, front, back, rfl, fun n hn => ?_⟩
    · rw [contains_eq_false_iff.2 hname]
      rfl
    · rw [contains_iff.2 (hfront n hn)]
      rfl
  rw [outcome_pass, hpolicy, hfind]

theorem outcome_pass_of_set {names : List String} {x : α}
    (h : s.policy ≠ .fail ∨ ∀ name ∈ names, ¬s.Unset name) :
    (s.pass names x).outcome = .ok x := by
  rw [outcome_pass]
  rcases h with h | h
  · cases hpolicy : s.policy with
    | leaveAsIs => rfl
    | empty => rfl
    | fail => exact absurd hpolicy h
  · have hfind : names.find? (fun n => !s.contains n) = none := by
      refine List.find?_eq_none.2 fun n hn => ?_
      simp [contains_iff.2 (h n hn)]
    rw [hfind]
    cases s.policy <;> rfl

variable (s)

/-- A text has one layout along all occurrences of placeholders in it, and they stand apart. The
names of the placeholders are their inner texts without the blanks at the ends. The result of a
substitution is the layout with each placeholder replaced, or under the failing policy an error for
the first name that is unset. -/
theorem substitute_replaces_occurrences (text : String) :
    ∃ (d : Layout) (names : List String), (∀ e : Layout, e.Follows text.toList ↔ e = d) ∧
      d.spans.Pairwise (fun a b => a.1 + a.2.length + 4 ≤ b.1) ∧
      d.Names names ∧ placeholders text = names ∧
      (∀ front name back, names = front ++ name :: back → s.policy = .fail →
        (∀ n ∈ front, ¬s.Unset n) → s.Unset name →
          (s.substitute text).outcome = .error (.undefined name)) ∧
      (s.policy ≠ .fail ∨ (∀ name ∈ names, ¬s.Unset name) →
        ∃ f : List Char → List Char,
          (∀ p ∈ d.tail, ∀ name, Text.Trims p.1 name.toList → s.Replaces p.1 name (f p.1)) ∧
          (s.substitute text).outcome = .ok (.ofList (d.fill f))) ∧
      s.substitute text = s.fillText text := by
  have hd := Layout.follows_ofText text.toList
  have hnames : placeholders text = (Layout.ofText text.toList).names :=
    (Layout.names_ofPieces _).symm
  refine ⟨Layout.ofText text.toList, (Layout.ofText text.toList).names,
    fun e => ⟨fun he => he.unique hd, fun he => he ▸ hd⟩, Layout.spans_pairwise _, names_names _,
    hnames, fun front name back hsplit hpolicy hfront hname => ?_,
    fun hset => ⟨s.replacement, fun p hp name hname => ?_, ?_⟩, s.substitute_eq_fillText text⟩
  · rw [substitute_eq, hnames, hsplit]
    exact outcome_pass_of_first hpolicy hfront hname
  · have hmem : name ∈ (Layout.ofText text.toList).names :=
      List.mem_map.2 ⟨p, hp, nameOf_eq_of_trims hname⟩
    exact replaces_replacement hname (hset.imp_right fun h => h name hmem)
  · rw [substitute_eq, hnames]
    exact outcome_pass_of_set hset

end Store

end ApiSuite
