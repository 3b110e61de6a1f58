import ApiSuite.Text.Basic
import Mathlib.Data.List.DropRight

/-! # Texts without the blanks at their ends

Trimming leaves the one part of a text that has no blank at either end while all that stands before
and after it is blank. What holds of a run at an end of a text for any property of characters comes
first.
-/
namespace ApiSuite.Text

/-! ## Runs at the ends of a text -/

theorem takeWhile_run {p : Char → Bool} {run rest : List Char} (hrun : ∀ c ∈ run, p c = true)
    (hrest : ∀ c, rest.head? = some c → p c = false) : (run ++ rest).takeWhile p = run := by
  rw [List.takeWhile_append_of_pos hrun]
  cases rest with
  | nil => exact List.append_nil run
  | cons c rest => rw [List.takeWhile_cons_of_neg (by simp [hrest c rfl]), List.append_nil]

theorem dropWhile_run {p : Char → Bool} {run rest : List Char} (hrun : ∀ c ∈ run, p c = true)
    (hrest : ∀ c, rest.head? = some c → p c = false) : (run ++ rest).dropWhile p = rest := by
  rw [List.dropWhile_append_of_pos hrun]
  cases rest with
  | nil => rfl
  | cons c rest => exact List.dropWhile_cons_of_neg (by simp [hrest c rfl])

theorem drop_length_takeWhile (p : Char → Bool) (text : List Char) :
    text.drop (text.takeWhile p).length = text.dropWhile p := by
  have hdrop : (text.takeWhile p ++ text.dropWhile p).drop (text.takeWhile p).length =
      text.dropWhile p := List.drop_left
  rwa [List.takeWhile_append_dropWhile] at hdrop

/-- Two ways of splitting a text behind a longest run are one. -/
theorem run_unique {p : Char → Bool} {run rest run' rest' : List Char}
    (h : run ++ rest = run' ++ rest') (hrun : ∀ c ∈ run, p c = true)
    (hrun' : ∀ c ∈ run', p c = true) (hrest : ∀ c, rest.head? = some c → p c = false)
    (hrest' : ∀ c, rest'.head? = some c → p c = false) : run = run' ∧ rest = rest' := by
  have heq : run = run' := by
    rw [← takeWhile_run hrun hrest, h, takeWhile_run hrun' hrest']
  subst heq
  exact ⟨rfl, List.append_cancel_left h⟩

theorem exists_mem_dropWhile {p : Char → Bool} {text : List Char} (h : ∃ c ∈ text, p c = false) :
    ∃ c ∈ text.dropWhile p, p c = false := by
  obtain ⟨c, hc, hp⟩ := h
  rw [← List.takeWhile_append_dropWhile (p := p) (l := text)] at hc
  rcases List.mem_append.1 hc with hc | hc
  · have htrue := List.mem_takeWhile_imp hc
    rw [hp] at htrue
    cases htrue
  · exact ⟨c, hc, hp⟩

theorem dropWhile_append_of_exists {p : Char → Bool} {text : List Char} (behind : List Char)
    (h : ∃ c ∈ text, p c = false) : (text ++ behind).dropWhile p = text.dropWhile p ++ behind := by
  obtain ⟨c, hc, -⟩ := exists_mem_dropWhile h
  rw [List.dropWhile_append, if_neg]
  intro hnil
  rw [List.isEmpty_iff.1 hnil] at hc
  cases hc

theorem rtakeWhile_append_of_exists {p : Char → Bool} {before text : List Char}
    (h : ∃ c ∈ text, p c = false) : (before ++ text).rtakeWhile p = text.rtakeWhile p := by
  have hlen : ¬(text.reverse.takeWhile p).length = text.reverse.length := by
    intro heq
    obtain ⟨c, hc, hp⟩ := h
    have hall := (List.takeWhile_prefix p).eq_of_length heq
    have hmem : c ∈ text.reverse.takeWhile p := hall.symm ▸ List.mem_reverse.2 hc
    have htrue := List.mem_takeWhile_imp hmem
    rw [hp] at htrue
    cases htrue
  rw [List.rtakeWhile, List.reverse_append, List.takeWhile_append, if_neg hlen, List.rtakeWhile]

/-! ## Trimming -/

theorem trimEnd_append_blank (text : List Char) {after : List Char}
    (h : ∀ c ∈ after, isBlank c = true) : trimEnd (text ++ after) = trimEnd text := by
  have hrev : ∀ c ∈ after.reverse, isBlank c = true := fun c hc => h c (List.mem_reverse.1 hc)
  rw [trimEnd, trimEnd, List.reverse_append, List.dropWhile_append_of_pos hrev]

theorem trim_padded (text : List Char) {before after : List Char}
    (h : ∀ c ∈ before ++ after, isBlank c = true) :
    trim (before ++ text ++ after) = trim text := by
  have hbefore : ∀ c ∈ before, isBlank c = true := fun c hc => h c (List.mem_append_left _ hc)
  have hafter : ∀ c ∈ after, isBlank c = true := fun c hc => h c (List.mem_append_right _ hc)
  have hstart : trimStart (before ++ text ++ after) = trimStart (text ++ after) := by
    rw [trimStart, List.append_assoc, List.dropWhile_append_of_pos hbefore]
    rfl
  rw [trim, hstart, trimStart, List.dropWhile_append]
  split
  · rename_i hnil
    have htext : trimStart text = [] := List.isEmpty_iff.1 hnil
    have hrest : (after ++ []).dropWhile isBlank = [] := List.dropWhile_append_of_pos hafter
    rw [List.append_nil] at hrest
    rw [hrest, trim, htext]
  · exact trimEnd_append_blank _ hafter

theorem trimEnd_cons {c : Char} {rest : List Char} (h : ∃ d ∈ c :: rest, isBlank d = false) :
    trimEnd (c :: rest) = c :: trimEnd rest := by
  by_cases hrest : ∃ d ∈ rest.reverse, isBlank d = false
  · rw [trimEnd, List.reverse_cons, dropWhile_append_of_exists [c] hrest, List.reverse_append]
    rfl
  · have hall : ∀ d ∈ rest.reverse, isBlank d = true := by simpa using hrest
    have hc : isBlank c = false := by
      obtain ⟨d, hd, hblank⟩ := h
      rcases List.mem_cons.1 hd with rfl | hd
      · exact hblank
      · exact absurd ⟨d, List.mem_reverse.2 hd, hblank⟩ hrest
    rw [trimEnd, trimEnd, List.reverse_cons, List.dropWhile_append_of_pos hall,
      List.dropWhile_eq_nil_iff.2 hall, List.dropWhile_cons_of_neg (by simp [hc])]
    rfl

theorem trimEnd_eq_nil {text : List Char} (h : ∀ c ∈ text, isBlank c = true) :
    trimEnd text = [] := by
  have hrev : ∀ c ∈ text.reverse, isBlank c = true := fun c hc => h c (List.mem_reverse.1 hc)
  rw [trimEnd, List.dropWhile_eq_nil_iff.2 hrev, List.reverse_nil]

theorem trim_cons_of_isBlank {c : Char} (h : isBlank c = true) (rest : List Char) :
    trim (c :: rest) = trim rest := by
  rw [trim, trimStart, List.dropWhile_cons_of_pos h]
  rfl

theorem trim_cons_of_not_isBlank {c : Char} (h : isBlank c = false) (rest : List Char) :
    trim (c :: rest) = c :: trimEnd rest := by
  rw [trim, trimStart, List.dropWhile_cons_of_neg (by simp [h])]
  exact trimEnd_cons ⟨c, List.mem_cons_self, h⟩

theorem trim_eq_nil_iff {text : List Char} : trim text = [] ↔ ∀ c ∈ text, isBlank c = true := by
  induction text with
  | nil => simp [trim, trimStart, trimEnd]
  | cons c rest ih =>
    cases hc : isBlank c with
    | true => simp [trim_cons_of_isBlank hc, ih, hc]
    | false => simp [trim_cons_of_not_isBlank hc, hc]

theorem trim_subset_trimEnd (text : List Char) : trim text ⊆ trimEnd text := by
  induction text with
  | nil => exact List.Subset.refl _
  | cons c rest ih =>
    cases hc : isBlank c with
    | false =>
      rw [trim_cons_of_not_isBlank hc, trimEnd_cons ⟨c, List.mem_cons_self, hc⟩]
      exact List.Subset.refl _
    | true =>
      rw [trim_cons_of_isBlank hc]
      intro d hd
      have hrest : ∃ e ∈ c :: rest, isBlank e = false := by
        have hne : trim rest ≠ [] := List.ne_nil_of_mem hd
        rw [Ne, trim_eq_nil_iff] at hne
        simp only [not_forall, Bool.not_eq_true] at hne
        obtain ⟨e, he, hblank⟩ := hne
        exact ⟨e, .tail c he, hblank⟩
      rw [trimEnd_cons hrest]
      exact List.mem_cons_of_mem c (ih hd)

/-- All characters that Unicode counts as white space. -/
def whiteSpace : List Char :=
  ['\t', '\n', '\x0b', '\x0c', '\r', ' ', '\x85', '\xa0', '\u1680', '\u2000', '\u2001', '\u2002',
   '\u2003', '\u2004', '\u2005', '\u2006', '\u2007', '\u2008', '\u2009', '\u200a', '\u2028',
   '\u2029', '\u202f', '\u205f', '\u3000']

theorem isBlank_iff {c : Char} : isBlank c = true ↔ c ∈ whiteSpace := by
  have hnat : c ∈ whiteSpace ↔ c.toNat ∈ whiteSpace.map Char.toNat :=
    (List.mem_map_of_injective fun _ _ => Char.toNat_inj.1).symm
  have hcodes : whiteSpace.map Char.toNat =
      [0x9, 0xA, 0xB, 0xC, 0xD, 0x20, 0x85, 0xA0, 0x1680, 0x2000, 0x2001, 0x2002, 0x2003, 0x2004,
       0x2005, 0x2006, 0x2007, 0x2008, 0x2009, 0x200A, 0x2028, 0x2029, 0x202F, 0x205F, 0x3000] :=
    rfl
  rw [hnat, hcodes]
  simp only [isBlank, blankRanges, List.any_cons, List.any_nil, Bool.or_false, Bool.or_eq_true,
    Bool.and_eq_true, decide_eq_true_eq, List.mem_cons, List.not_mem_nil, or_false]
  omega

/-- The second text is the first one without the white space at its ends. -/
structure Trims (text core : List Char) : Prop where
  padded : ∃ before after, text = before ++ core ++ after ∧ ∀ c ∈ before ++ after, c ∈ whiteSpace
  first : ∀ c, core.head? = some c → c ∉ whiteSpace
  last : ∀ c, core.getLast? = some c → c ∉ whiteSpace

theorem trims_iff {text core : List Char} :
    Trims text core ↔
      (∃ before after, text = before ++ core ++ after ∧ ∀ c ∈ before ++ after, isBlank c = true) ∧
      (∀ c, core.head? = some c → isBlank c = false) ∧
      ∀ c, core.getLast? = some c → isBlank c = false := by
  simp only [isBlank_iff, ← Bool.not_eq_true]
  exact ⟨fun h => ⟨h.padded, h.first, h.last⟩, fun ⟨hpadded, hfirst, hlast⟩ =>
    ⟨hpadded, hfirst, hlast⟩⟩

theorem trimStart_of_head? {text : List Char} (h : ∀ c, text.head? = some c → isBlank c = false) :
    trimStart text = text := by
  cases text with
  | nil => rfl
  | cons c rest => exact List.dropWhile_cons_of_neg (by simp [h c rfl])

theorem trimEnd_of_getLast? {text : List Char}
    (h : ∀ c, text.getLast? = some c → isBlank c = false) : trimEnd text = text := by
  have hrev : trimStart text.reverse = text.reverse :=
    trimStart_of_head? fun c hc => h c (by rwa [List.head?_reverse] at hc)
  rw [trimEnd, ← trimStart, hrev, List.reverse_reverse]

theorem trims_of_forall {text : List Char} (h : ∀ c ∈ text, isBlank c = false) :
    Trims text text :=
  trims_iff.2 ⟨⟨[], [], by simp, by simp⟩, fun _ hc => h _ (List.mem_of_head? hc),
    fun _ hc => h _ (List.mem_of_getLast? hc)⟩

theorem Trims.trim_eq {text core : List Char} (h : Trims text core) : trim text = core := by
  obtain ⟨⟨before, after, rfl, hblank⟩, hfirst, hlast⟩ := trims_iff.1 h
  rw [trim_padded core hblank, trim, trimStart_of_head? hfirst, trimEnd_of_getLast? hlast]

theorem trims_trim (text : List Char) : Trims text (trim text) := by
  have hend : trim text ++ (trimStart text).rtakeWhile isBlank = trimStart text :=
    List.rdropWhile_append_rtakeWhile
  refine trims_iff.2 ⟨?_, ?_, ?_⟩
  · refine ⟨text.takeWhile isBlank, (trimStart text).rtakeWhile isBlank, ?_, fun c hc => ?_⟩
    · rw [List.append_assoc, hend, trimStart, List.takeWhile_append_dropWhile]
    · rcases List.mem_append.1 hc with hc | hc
      · exact List.mem_takeWhile_imp hc
      · exact List.mem_rtakeWhile_imp hc
  · intro c hc
    have hhead : (text.dropWhile isBlank).head? = some c := by
      rw [← trimStart, ← hend, List.head?_append, hc]
      rfl
    have hnot := List.head?_dropWhile_not isBlank text
    rw [hhead] at hnot
    simpa using hnot
  · intro c hc
    rw [trim, trimEnd, List.getLast?_reverse] at hc
    have hnot := List.head?_dropWhile_not isBlank (trimStart text).reverse
    rw [hc] at hnot
    simpa using hnot

theorem trims_of_trim_eq {core : List Char} (h : trim core = core) : Trims core core := by
  have htrims := trims_trim core
  rwa [h] at htrims

theorem Trims.pad {core before after : List Char} (h : Trims core core)
    (hblank : ∀ c ∈ before ++ after, isBlank c = true) : Trims (before ++ core ++ after) core :=
  trims_iff.2 ⟨⟨before, after, rfl, hblank⟩, (trims_iff.1 h).2⟩

/-- A text without blanks at its ends does not end in blanks. -/
theorem Trims.eq_nil_of_trim {text front rest : List Char} (h : Trims text (front ++ rest))
    (hnil : trim rest = []) : rest = [] := by
  by_contra hne
  have hlast := (trims_iff.1 h).2.2 (rest.getLast hne)
    (by rw [List.getLast?_append, List.getLast?_eq_getLast_of_ne_nil hne]; rfl)
  rw [trim_eq_nil_iff.1 hnil _ (List.getLast_mem hne)] at hlast
  cases hlast

/-- What trimming at the start takes away. -/
theorem exists_lead (text : List Char) :
    ∃ lead, text = lead ++ trimStart text ∧ ∀ c ∈ lead, isBlank c = true :=
  ⟨text.takeWhile isBlank, List.takeWhile_append_dropWhile.symm, fun _ => List.mem_takeWhile_imp⟩

theorem isBlank_of_isDigit {c : Char} (h : c.isDigit = true) : isBlank c = false := by
  have hrange : 48 ≤ c.toNat ∧ c.toNat ≤ 57 := Char.isDigit_iff_toNat.1 h
  simp only [isBlank, blankRanges, List.any_cons, List.any_nil, Bool.or_false,
    Bool.or_eq_false_iff, Bool.and_eq_false_iff, decide_eq_false_iff_not]
  omega

end ApiSuite.Text
