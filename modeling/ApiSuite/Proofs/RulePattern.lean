import ApiSuite.Capture
import ApiSuite.Proofs.Pattern
import ApiSuite.Proofs.Trimming

/-! # The pattern of a rule

A rule is matched by a pattern of a name, an equals sign and a place, in which four runs of blanks
and the place compete for the blanks of the rule. The first match leaves all blanks to the runs,
so that it is a split behind the equals sign; only when there are nothing but blanks behind the sign
does one of them become the place.
-/
namespace ApiSuite

namespace Capture

open Text Pattern

def isInLine (c : Char) : Bool := c != '\n'

def placePattern : Pattern :=
  cat (many isBlank) (cat (group (cat (one isInLine) (few isInLine))) (many isBlank))

def equalsPattern : Pattern := cat (many isBlank) (cat (one (· == '=')) placePattern)

def rulePattern : Pattern :=
  cat (many isBlank) (cat (group (cat (one isNameStart) (many isNameChar))) equalsPattern)

/-- A place that starts with the text and has only blanks behind it. -/
def placeAt? : List Char → Option (List Char)
  | [] => none
  | c :: rest => if (c :: trimEnd rest).contains '\n' then none else some (c :: trimEnd rest)

variable {β : Type} {text after : List Char}

theorem place?_cons_of_not_isBlank {c : Char} (h : isBlank c = false) (rest : List Char) :
    place? (c :: rest) = placeAt? (c :: rest) := by
  rw [place?, trim_cons_of_not_isBlank h]
  rfl

/-- The place behind a blank is the one without it, unless that leaves no place. -/
theorem place?_cons_of_isBlank {c : Char} (h : isBlank c = true) (rest : List Char) :
    place? (c :: rest) = (place? rest).or (placeAt? (c :: rest)) := by
  rw [place?, place?, placeAt?, trim_cons_of_isBlank h]
  split
  · rename_i hnil
    rw [trimEnd_eq_nil (trim_eq_nil_iff.1 hnil), List.reverse_cons, List.find?_append]
    cases rest.reverse.find? (· != '\n') with
    | some d => rfl
    | none =>
      by_cases hc : c = '\n'
      · simp [hc]
      · simp [hc, Ne.symm hc]
  · split
    · rename_i hline
      have hmem := trim_subset_trimEnd rest (List.contains_iff_mem.1 hline)
      rw [if_pos (List.contains_iff_mem.2 (List.mem_cons_of_mem c hmem))]
      rfl
    · rfl

theorem isEmpty_dropWhile (p : Char → Bool) (text : List Char) :
    (text.dropWhile p).isEmpty = text.all p := by
  rw [Bool.eq_iff_iff, List.isEmpty_iff, List.dropWhile_eq_nil_iff, List.all_eq_true]

/-- A lazy run up to the blanks at the end takes the text without these blanks, which has to be in
one line. -/
theorem first_few_of_blank {k : Way → Option β} {g : List Char → β}
    (h : ∀ run left, k ⟨run, [], left⟩ = if left.all isBlank then some (g run) else none) :
    (few isInLine).first text k =
      if (trimEnd text).contains '\n' then none else some (g (trimEnd text)) := by
  induction text generalizing k g with
  | nil => rw [first_few_nil, h]; rfl
  | cons c rest ih =>
    have hnext : ∀ run left, k ⟨c :: run, [], left⟩ =
        if left.all isBlank then some (g (c :: run)) else none := fun run => h (c :: run)
    rw [first_few_cons, h]
    by_cases hall : (c :: rest).all isBlank = true
    · rw [if_pos hall, trimEnd_eq_nil (List.all_eq_true.1 hall)]
      rfl
    · have hsome : ∃ d ∈ c :: rest, isBlank d = false := by
        simpa using List.all_eq_false.1 (Bool.eq_false_iff.2 hall)
      rw [if_neg hall, Option.none_or, ih hnext, trimEnd_cons hsome]
      by_cases hc : c = '\n'
      · simp [hc, isInLine]
      · simp [hc, Ne.symm hc, isInLine]

theorem first_line_of_blank {k : Way → Option β} {g : List Char → β}
    (h : ∀ run left, k ⟨run, [run], left⟩ = if left.all isBlank then some (g run) else none) :
    (group (cat (one isInLine) (few isInLine))).first text k = (placeAt? text).map g := by
  cases text with
  | nil => rfl
  | cons c rest =>
    rw [first_group, first_cat, first_one_cons, placeAt?]
    by_cases hc : c = '\n'
    · simp [hc, isInLine]
    · have hline : isInLine c = true := by simpa [isInLine] using hc
      rw [if_pos hline, first_few_of_blank (g := fun run => g (c :: run)) fun run => h (c :: run)]
      simp [Ne.symm hc, apply_ite]

theorem first_blanks_of_place {k : Way → Option β} {g : List Char → β}
    (h : ∀ run left, k ⟨run, [], left⟩ = (placeAt? left).map g) :
    (many isBlank).first text k = (place? text).map g := by
  induction text generalizing k with
  | nil => rw [first_many_nil, h]; rfl
  | cons c rest ih =>
    rw [first_many_cons, h]
    cases hc : isBlank c with
    | true =>
      rw [if_pos rfl, ih fun run => h (c :: run), place?_cons_of_isBlank hc, Option.map_or]
    | false => rw [if_neg nofun, Option.none_or, place?_cons_of_not_isBlank hc]

/-- Of all the ways to match what stands behind the equals sign, the first one takes the place
without blanks around it. -/
theorem first_placePattern {g : List (List Char) → β} :
    placePattern.first text (atEnd g) = (place? text).map fun place => g [place] := by
  rw [placePattern, first_cat]
  refine first_blanks_of_place fun lead left => ?_
  rw [first_cat]
  refine first_line_of_blank fun place behind => ?_
  rw [first_many_of_stuck fun _ _ _ _ => rfl, ← isEmpty_dropWhile]
  rfl

theorem isNameChar_range {c : Char} (h : isNameChar c = true) : 48 ≤ c.toNat ∧ c.toNat ≤ 122 := by
  change (c.isUpper || c.isLower || c.isDigit || c == '_') = true at h
  simp only [Bool.or_eq_true, beq_iff_eq] at h
  rcases h with ((hupper | hlower) | hdigit) | rfl
  · have hrange : 65 ≤ c.toNat ∧ c.toNat ≤ 90 := of_decide_eq_true hupper
    omega
  · have hle : 97 ≤ c.toNat := of_decide_eq_true (Bool.and_eq_true_iff.1 hlower).1
    have hle' : c.toNat ≤ 122 := of_decide_eq_true (Bool.and_eq_true_iff.1 hlower).2
    omega
  · have hrange : 48 ≤ c.toNat ∧ c.toNat ≤ 57 := Char.isDigit_iff_toNat.1 hdigit
    omega
  · decide

theorem isBlank_of_isNameChar {c : Char} (h : isNameChar c = true) : isBlank c = false := by
  have hrange := isNameChar_range h
  simp only [isBlank, blankRanges, List.any_cons, List.any_nil, Bool.or_false,
    Bool.or_eq_false_iff, Bool.and_eq_false_iff, decide_eq_false_iff_not]
  omega

theorem isNameChar_of_isNameStart {c : Char} (h : isNameStart c = true) : isNameChar c = true := by
  rw [isNameStart, Bool.or_eq_true] at h
  rw [isNameChar, Char.isAlphanum, Bool.or_assoc, Bool.or_eq_true]
  exact h.imp_right fun h => Bool.or_eq_true_iff.2 (.inr h)

theorem isNameStart_of_isBlank {c : Char} (h : isBlank c = true) : isNameStart c = false := by
  refine Bool.eq_false_iff.2 fun hc => ?_
  rw [isBlank_of_isNameChar (isNameChar_of_isNameStart hc)] at h
  cases h

/-- A rule by its first character that is no blank. -/
theorem split?_eq (rule : List Char) :
    split? rule = match trimStart rule with
      | [] => none
      | c :: rest =>
        if isNameStart c then match trimStart (rest.dropWhile isNameChar) with
          | '=' :: after => (place? after).map (c :: rest.takeWhile isNameChar, ·)
          | _ => none
        else none := by
  simp only [split?, drop_length_takeWhile]
  cases trimStart rule with
  | nil => rfl
  | cons c rest =>
    cases hstart : isNameStart c with
    | true =>
      have hchar := isNameChar_of_isNameStart hstart
      rw [List.takeWhile_cons_of_pos hchar, List.dropWhile_cons_of_pos hchar, List.head?_cons,
        Option.any_some]
      dsimp only
      rw [hstart]
      rfl
    | false =>
      have hnone : ((c :: rest).takeWhile isNameChar).head?.any isNameStart = false := by
        cases hchar : isNameChar c with
        | true => simp [List.takeWhile_cons_of_pos hchar, hstart]
        | false => simp [hchar]
      dsimp only
      rw [hnone, hstart]
      rfl

theorem first_equalsPattern {g : List (List Char) → β} :
    equalsPattern.first text (atEnd g) = match trimStart text with
      | '=' :: after => (place? after).map fun place => g [place]
      | _ => none := by
  have hcons : ∀ (c : Char) rest, (cat (one (· == '=')) placePattern).first (c :: rest) (atEnd g) =
      if c == '=' then (place? rest).map fun place => g [place] else none := by
    intro c rest
    rw [first_cat, first_one_cons, ← first_placePattern]
    rfl
  have hstuck : ∀ c rest, isBlank c = true →
      (cat (one (· == '=')) placePattern).first (c :: rest) (atEnd g) = none := by
    intro c rest hc
    rw [hcons, if_neg]
    rw [beq_iff_eq]
    rintro rfl
    exact absurd hc (by decide)
  rw [equalsPattern, first_many_cat hstuck, ← trimStart]
  cases trimStart text with
  | nil => rfl
  | cons c rest =>
    rw [hcons]
    split
    · rename_i hc
      obtain rfl := eq_of_beq hc
      rfl
    · rename_i hc
      split
      · rename_i heq
        obtain ⟨rfl, -⟩ := List.cons.inj heq
        exact absurd rfl hc
      · rfl

/-- A rule is split as the first match of its pattern. -/
theorem captures?_rulePattern (rule : List Char) :
    rulePattern.captures? rule = (split? rule).map fun s => [s.1, s.2] := by
  have hstuck : ∀ c rest (g : List (List Char) → List (List Char)), isNameChar c = true →
      equalsPattern.first (c :: rest) (atEnd g) = none := by
    intro c rest g hc
    have hblank := isBlank_of_isNameChar hc
    rw [first_equalsPattern, trimStart, List.dropWhile_cons_of_neg (by simp [hblank])]
    split
    · rename_i heq
      obtain ⟨rfl, -⟩ := List.cons.inj heq
      exact absurd hc (by decide)
    · rfl
  rw [captures?_eq, rulePattern, first_many_cat fun c rest hc =>
    first_group_cat_of_not rest (isNameStart_of_isBlank hc), split?_eq, ← trimStart]
  cases trimStart rule with
  | nil => rfl
  | cons c rest =>
    dsimp only
    cases hstart : isNameStart c with
    | false =>
      rw [first_group_cat_of_not rest hstart]
      rfl
    | true =>
      rw [first_group_cat hstart hstuck, first_equalsPattern, if_pos rfl]
      split
      · rw [Option.map_map]
        rfl
      · rfl

example : rulePattern.captures? " a = b c \n".toList = some ["a".toList, "b c".toList] := by
  decide +kernel

end Capture

end ApiSuite
