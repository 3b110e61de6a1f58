import ApiSuite.Proofs.Occurrence

/-! # Layout of a text along its placeholders

A layout is the literal text before the first placeholder, and for each placeholder its inner text
and the literal text behind it. The layout that scanning finds has exactly the occurrences of
placeholders in the text as its spans, and no other layout of the text has.
-/
namespace ApiSuite

structure Layout where
  lead : List Char
  tail : List (List Char × List Char)
  deriving DecidableEq

namespace Layout
open Piece

/-- The text of the layout with something in the place of each placeholder. -/
def fill (f : List Char → List Char) (d : Layout) : List Char :=
  d.lead ++ d.tail.flatMap fun p => f p.1 ++ p.2

def source (d : Layout) : List Char := d.fill braced

def names (d : Layout) : List String := d.tail.map fun p => nameOf p.1

/-- Where the placeholders of a tail stand when the first one stands at the index. -/
def spansFrom : Nat → List (List Char × List Char) → List (Nat × List Char)
  | _, [] => []
  | start, (inner, behind) :: rest =>
    (start, inner) :: spansFrom (start + (inner.length + 4) + behind.length) rest

/-- The placeholders with the indices at which they stand. -/
def spans (d : Layout) : List (Nat × List Char) := spansFrom d.lead.length d.tail

def ofPieces : List Piece → Layout
  | [] => ⟨[], []⟩
  | .literal c :: rest => ⟨c :: (ofPieces rest).lead, (ofPieces rest).tail⟩
  | .hole inner :: rest => ⟨[], (inner, (ofPieces rest).lead) :: (ofPieces rest).tail⟩

def ofText (text : List Char) : Layout := ofPieces (scan text)

/-- The layout cuts the text along all occurrences of placeholders in it and nowhere else. -/
structure Follows (d : Layout) (text : List Char) : Prop where
  source_eq : d.source = text
  mem_spans_iff : ∀ start inner, (start, inner) ∈ d.spans ↔ Occurs text start inner

theorem fill_ofPieces (f : List Char → List Char) (pieces : List Piece) :
    (ofPieces pieces).fill f = pieces.flatMap fun
      | .literal c => [c]
      | .hole inner => f inner := by
  induction pieces with
  | nil => rfl
  | cons p rest ih =>
    rw [List.flatMap_cons, ← ih]
    cases p <;> simp [ofPieces, fill]

theorem names_ofPieces (pieces : List Piece) :
    (ofPieces pieces).names = pieces.filterMap Piece.name? := by
  induction pieces with
  | nil => rfl
  | cons p rest ih =>
    cases p with
    | literal c => exact ih
    | hole inner => exact congrArg (nameOf inner :: ·) ih

theorem spansFrom_add (start k : Nat) (tail : List (List Char × List Char)) :
    spansFrom (start + k) tail = (spansFrom start tail).map fun s => (s.1 + k, s.2) := by
  induction tail generalizing start with
  | nil => rfl
  | cons p rest ih =>
    rw [spansFrom, spansFrom, List.map_cons, ← ih]
    congr 2
    omega

theorem spans_literal (c : Char) (rest : List Piece) :
    (ofPieces (.literal c :: rest)).spans =
      (ofPieces rest).spans.map fun s => (s.1 + 1, s.2) := by
  simp [spans, ofPieces, spansFrom_add]

theorem spans_hole (inner : List Char) (rest : List Piece) :
    (ofPieces (.hole inner :: rest)).spans =
      (0, inner) :: (ofPieces rest).spans.map fun s => (s.1 + (inner.length + 4), s.2) := by
  simp only [spans, ofPieces, List.length_nil, spansFrom, Nat.zero_add]
  rw [Nat.add_comm, spansFrom_add]

theorem source_ofText (text : List Char) : (ofText text).source = text := by
  rw [ofText, source, fill_ofPieces]
  fun_induction scan text with
  | case1 text inner after h ih =>
    rw [List.flatMap_cons, ih]
    exact (opening?_eq_some h).1.symm
  | case2 => rfl
  | case3 c rest h ih =>
    rw [List.flatMap_cons, ih]
    rfl

theorem mem_spans_ofText (text : List Char) (start : Nat) (inner : List Char) :
    (start, inner) ∈ (ofText text).spans ↔ Occurs text start inner := by
  rw [ofText]
  fun_induction scan text generalizing start with
  | case1 text m after h ih =>
    obtain ⟨ht, hm⟩ := opening?_eq_some h
    rw [ht, occurs_source_append_iff hm, spans_hole]
    simp only [List.mem_cons, Prod.mk.injEq, List.mem_map, Prod.exists]
    refine or_congr Iff.rfl ⟨?_, ?_⟩
    · rintro ⟨k, n, hk, rfl, rfl⟩
      exact ⟨k, rfl, (ih k).1 hk⟩
    · rintro ⟨k, rfl, hk⟩
      exact ⟨k, inner, (ih k).2 hk, rfl, rfl⟩
  | case2 => simp [ofPieces, spans, spansFrom, Occurs, braced]
  | case3 c rest h ih =>
    rw [occurs_cons_iff h, spans_literal]
    simp only [List.mem_map, Prod.exists, Prod.mk.injEq]
    constructor
    · rintro ⟨k, n, hk, rfl, rfl⟩
      exact ⟨k, rfl, (ih k).1 hk⟩
    · rintro ⟨k, rfl, hk⟩
      exact ⟨k, inner, (ih k).2 hk, rfl, rfl⟩

theorem follows_ofText (text : List Char) : (ofText text).Follows text :=
  ⟨source_ofText text, mem_spans_ofText text⟩

/-- Only the inner two of three braces on each side belong to the placeholder. -/
example : ofText "\x7b\x7b\x7ba\x7d\x7d\x7d".toList = ⟨['\x7b'], [(['a'], ['\x7d'])]⟩ := by
  decide +kernel

theorem le_of_mem_spansFrom {start : Nat} {tail : List (List Char × List Char)}
    {s : Nat × List Char} (h : s ∈ spansFrom start tail) : start ≤ s.1 := by
  induction tail generalizing start with
  | nil => simp [spansFrom] at h
  | cons p rest ih =>
    rcases List.mem_cons.1 h with rfl | h
    · exact Nat.le_refl _
    · have := ih h
      omega

/-- Spans stand in the order of their indices and apart from each other. -/
theorem spansFrom_pairwise (start : Nat) (tail : List (List Char × List Char)) :
    (spansFrom start tail).Pairwise fun s t => s.1 + s.2.length + 4 ≤ t.1 := by
  induction tail generalizing start with
  | nil => exact List.Pairwise.nil
  | cons p rest ih =>
    refine List.pairwise_cons.2 ⟨fun s hs => ?_, ih _⟩
    have := le_of_mem_spansFrom hs
    dsimp only
    omega

theorem spans_pairwise (d : Layout) :
    d.spans.Pairwise fun s t => s.1 + s.2.length + 4 ≤ t.1 :=
  spansFrom_pairwise d.lead.length d.tail

theorem spans_nodup (d : Layout) : d.spans.Nodup :=
  d.spans_pairwise.imp fun h heq => by
    subst heq
    omega

theorem eq_of_spansFrom {start : Nat} {lead lead' : List Char}
    {tail tail' : List (List Char × List Char)}
    (hs : spansFrom (start + lead.length) tail = spansFrom (start + lead'.length) tail')
    (ht : source ⟨lead, tail⟩ = source ⟨lead', tail'⟩) : lead = lead' ∧ tail = tail' := by
  induction tail generalizing start lead lead' tail' with
  | nil =>
    cases tail' with
    | nil => exact ⟨by simpa [source, fill] using ht, rfl⟩
    | cons p rest => simp [spansFrom] at hs
  | cons p rest ih =>
    cases tail' with
    | nil => simp [spansFrom] at hs
    | cons p' rest' =>
      simp only [spansFrom, List.cons.injEq, Prod.mk.injEq, Nat.add_left_cancel_iff] at hs
      obtain ⟨⟨hlen, hinner⟩, hs⟩ := hs
      obtain ⟨inner, behind⟩ := p
      obtain ⟨inner', behind'⟩ := p'
      obtain rfl : inner = inner' := hinner
      simp only [source, fill, List.flatMap_cons, List.append_assoc] at ht
      obtain ⟨rfl, hcut⟩ := List.append_inj ht hlen
      have hrest : source ⟨behind, rest⟩ = source ⟨behind', rest'⟩ := List.append_cancel_left hcut
      obtain ⟨rfl, rfl⟩ := ih hs hrest
      exact ⟨rfl, rfl⟩

theorem Follows.unique {d d' : Layout} {text : List Char} (h : d.Follows text)
    (h' : d'.Follows text) : d = d' := by
  have hmem : ∀ s, s ∈ d.spans ↔ s ∈ d'.spans := by
    intro s
    rw [h.mem_spans_iff, h'.mem_spans_iff]
  have hperm : d.spans.Perm d'.spans :=
    (List.perm_ext_iff_of_nodup d.spans_nodup d'.spans_nodup).2 hmem
  have hspans : d.spans = d'.spans := by
    refine hperm.eq_of_pairwise ?_ d.spans_pairwise d'.spans_pairwise
    intro s t _ _ hst hts
    omega
  obtain ⟨lead, tail⟩ := d
  obtain ⟨lead', tail'⟩ := d'
  have hstart : spansFrom (0 + lead.length) tail = spansFrom (0 + lead'.length) tail' := by
    simpa [spans] using hspans
  obtain ⟨rfl, rfl⟩ := eq_of_spansFrom hstart (h.source_eq.trans h'.source_eq.symm)
  rfl

end Layout
end ApiSuite
