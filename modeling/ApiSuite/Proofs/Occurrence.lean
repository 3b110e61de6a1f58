import ApiSuite.Placeholder
import Mathlib.Data.List.Perm.Basic
import Mathlib.Data.List.Sort

/-! # Occurrences of placeholders

A placeholder occurs in a text wherever its source stands, whatever stands around it. Two
occurrences never overlap, hence a text can be cut along all of them at once: into the literal text
before the first one and the literal text behind each of them. Scanning finds this cut, and it is
the only one. No assumption is made on the text; stray, nested and unmatched braces are literal text.
-/
namespace ApiSuite
namespace Piece

def braced (inner : List Char) : List Char := '\x7b' :: '\x7b' :: (inner ++ ['\x7d', '\x7d'])

/-- A placeholder with this inner text stands at this index of the text. -/
def Occurs (text : List Char) (start : Nat) (inner : List Char) : Prop :=
  ('\x7b' ∉ inner ∧ '\x7d' ∉ inner ∧ '\n' ∉ inner) ∧ braced inner <+: text.drop start

theorem source_hole (inner : List Char) : (hole inner).source = braced inner := rfl

theorem forall_isInner_iff {inner : List Char} :
    (∀ c ∈ inner, isInner c = true) ↔ '\x7b' ∉ inner ∧ '\x7d' ∉ inner ∧ '\n' ∉ inner := by
  simp only [isInner, Bool.and_eq_true, bne_iff_ne]
  constructor
  · intro h
    exact ⟨fun hc => (h _ hc).1.1 rfl, fun hc => (h _ hc).1.2 rfl, fun hc => (h _ hc).2 rfl⟩
  · rintro ⟨hopen, hclose, hline⟩ c hc
    exact ⟨⟨fun heq => hopen (heq ▸ hc), fun heq => hclose (heq ▸ hc)⟩, fun heq => hline (heq ▸ hc)⟩

theorem occurs_iff {text inner : List Char} {start : Nat} :
    Occurs text start inner ↔
      (∀ c ∈ inner, isInner c = true) ∧ (hole inner).source <+: text.drop start := by
  rw [Occurs, forall_isInner_iff, source_hole]

theorem length_source_hole (inner : List Char) :
    (hole inner).source.length = inner.length + 4 := by
  simp [source]

theorem opening?_source_append {inner : List Char} (after : List Char)
    (h : ∀ c ∈ inner, isInner c) :
    opening? ((hole inner).source ++ after) = some (inner, after) := by
  have hdrop : (inner ++ '\x7d' :: '\x7d' :: after).dropWhile isInner =
      '\x7d' :: '\x7d' :: after := by
    rw [List.dropWhile_append_of_pos h]
    rfl
  have htake : (inner ++ '\x7d' :: '\x7d' :: after).takeWhile isInner = inner := by
    rw [List.takeWhile_append_of_pos h]
    simp [isInner]
  simp [source, opening?, hdrop, htake]

theorem occurs_zero_iff {text inner : List Char} :
    Occurs text 0 inner ↔ ∃ after, opening? text = some (inner, after) := by
  rw [occurs_iff]
  constructor
  · rintro ⟨hi, after, ht⟩
    rw [List.drop_zero] at ht
    exact ⟨after, ht ▸ opening?_source_append after hi⟩
  · rintro ⟨after, ho⟩
    obtain ⟨ht, hi⟩ := opening?_eq_some ho
    exact ⟨hi, after, by rw [ht, List.drop_zero]⟩

theorem occurs_drop {text inner : List Char} {k start : Nat} :
    Occurs (text.drop k) start inner ↔ Occurs text (k + start) inner := by
  simp [Occurs, List.drop_drop]

/-- The place of an occurrence determines its inner text. -/
theorem Occurs.inner_eq {text m n : List Char} {i : Nat} (hm : Occurs text i m)
    (hn : Occurs text i n) : m = n := by
  have hm' : Occurs (text.drop i) 0 m := occurs_drop.2 hm
  have hn' : Occurs (text.drop i) 0 n := occurs_drop.2 hn
  obtain ⟨_, ho⟩ := occurs_zero_iff.1 hm'
  obtain ⟨_, ho'⟩ := occurs_zero_iff.1 hn'
  simp only [ho, Option.some.injEq, Prod.mk.injEq] at ho'
  exact ho'.1

theorem Occurs.getElem?_open {text inner : List Char} {i : Nat} (h : Occurs text i inner) :
    text[i]? = some '\x7b' ∧ text[i + 1]? = some '\x7b' := by
  obtain ⟨_, after, ht⟩ := h
  have h0 : (text.drop i)[0]? = some '\x7b' := by rw [← ht]; rfl
  have h1 : (text.drop i)[1]? = some '\x7b' := by rw [← ht]; rfl
  rw [List.getElem?_drop] at h0 h1
  exact ⟨h0, h1⟩

/-- Behind the opening pair no brace opens before the placeholder ends. -/
theorem Occurs.getElem?_body {text inner : List Char} {i k : Nat} (h : Occurs text i inner)
    (hk : k < inner.length + 2) : text[i + (k + 2)]? ≠ some '\x7b' := by
  obtain ⟨hi, after, ht⟩ := occurs_iff.1 h
  rw [← List.getElem?_drop, ← ht]
  simp only [source, List.cons_append, List.getElem?_cons_succ]
  rw [List.getElem?_append_left (by simpa using hk)]
  intro hc
  rcases List.mem_append.1 (List.mem_of_getElem? hc) with hm | hm
  · exact absurd (hi _ hm) (by decide)
  · exact absurd hm (by decide)

/-- Of two occurrences the later one starts behind the end of the earlier one. -/
theorem Occurs.disjoint {text m n : List Char} {i j : Nat} (hm : Occurs text i m)
    (hn : Occurs text j n) (hij : i < j) : i + m.length + 4 ≤ j := by
  by_contra hlt
  -- The later opening pair would stand inside the earlier placeholder; one of its braces lies
  -- behind the opening pair of that placeholder, where no brace opens.
  obtain ⟨ho, ho'⟩ := hn.getElem?_open
  by_cases hj : j = i + 1
  · subst hj
    exact hm.getElem?_body (k := 0) (by omega) ho'
  · obtain ⟨k, rfl⟩ : ∃ k, j = i + (k + 2) := ⟨j - i - 2, by omega⟩
    exact hm.getElem?_body (by omega) ho

theorem occurs_cons_iff {c : Char} {rest inner : List Char} {start : Nat}
    (h : opening? (c :: rest) = none) :
    Occurs (c :: rest) start inner ↔ ∃ k, start = k + 1 ∧ Occurs rest k inner := by
  cases start with
  | zero => simp [occurs_zero_iff, h]
  | succ k => simp [Occurs]

theorem occurs_source_append_iff {m after inner : List Char} {start : Nat}
    (hm : ∀ c ∈ m, isInner c) :
    Occurs ((hole m).source ++ after) start inner ↔
      (start = 0 ∧ inner = m) ∨ ∃ k, start = k + (m.length + 4) ∧ Occurs after k inner := by
  have hfirst : Occurs ((hole m).source ++ after) 0 m :=
    occurs_iff.2 ⟨hm, List.prefix_append _ _⟩
  have hrest : ∀ k, Occurs ((hole m).source ++ after) (m.length + 4 + k) inner ↔
      Occurs after k inner := by
    intro k
    rw [← occurs_drop, ← length_source_hole, List.drop_left]
  constructor
  · intro h
    by_cases hs : start = 0
    · subst hs
      exact .inl ⟨rfl, h.inner_eq hfirst⟩
    · have hle : m.length + 4 ≤ start := by
        have := hfirst.disjoint h (by omega)
        omega
      obtain ⟨k, rfl⟩ := Nat.exists_eq_add_of_le hle
      exact .inr ⟨k, Nat.add_comm _ _, (hrest k).1 h⟩
  · rintro (⟨rfl, rfl⟩ | ⟨k, rfl, hk⟩)
    · exact hfirst
    · rw [Nat.add_comm]
      exact (hrest k).2 hk

end Piece
end ApiSuite
