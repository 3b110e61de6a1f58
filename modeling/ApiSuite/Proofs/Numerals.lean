import ApiSuite.Json.Printer
import ApiSuite.Proofs.Reading

/-! # Numerals

The text of a number is a numeral with at most a sign in front: a whole part without a leading zero,
then decimals and a power of ten, which may both be missing. This holds of every number, also of
one that no text is read as.
-/
namespace ApiSuite

open Text

namespace Json
open Reader

variable {ws ds : List Char}

/-- Digits of which the first is zero only when it stands alone. -/
inductive Whole : List Char → Prop
  | zero : Whole ['0']
  | digits {d : Char} {ds : List Char} (hd : isDigit d = true) (hz : d ≠ '0')
      (hds : ∀ c ∈ ds, isDigit c = true) : Whole (d :: ds)

/-- A point and at least one digit, or nothing. -/
inductive Decimals : List Char → Prop
  | none : Decimals []
  | point {ds : List Char} (hne : ds ≠ []) (hds : ∀ c ∈ ds, isDigit c = true) :
      Decimals ('.' :: ds)

/-- An exponent with its sign, or nothing. -/
inductive Power : List Char → Prop
  | none : Power []
  | exponent {sign d : Char} {ds : List Char} (hsign : sign = '+' ∨ sign = '-')
      (hds : ∀ c ∈ d :: ds, isDigit c = true) : Power ('e' :: sign :: d :: ds)

inductive Numeral : List Char → Prop
  | mk {ws ds es : List Char} (hw : Whole ws) (hd : Decimals ds) (he : Power es) :
      Numeral (ws ++ (ds ++ es))

theorem Whole.exists_cons (h : Whole ws) : ∃ d ds, ws = d :: ds ∧ isDigit d = true := by
  cases h with
  | zero => exact ⟨_, _, rfl, by decide⟩
  | digits hd => exact ⟨_, _, rfl, hd⟩

theorem Numeral.exists_cons {cs : List Char} (h : Numeral cs) :
    ∃ d more, cs = d :: more ∧ isDigit d = true := by
  obtain ⟨hw, -, -⟩ := h
  obtain ⟨d, ds, rfl, hd⟩ := hw.exists_cons
  exact ⟨d, _, rfl, hd⟩

theorem Whole.numeral (h : Whole ws) : Numeral ws := by
  have hcs : Numeral (ws ++ ([] ++ [])) := .mk h .none .none
  rwa [List.append_nil, List.append_nil] at hcs

theorem Whole.numeral_point (h : Whole ws) (hne : ds ≠ []) (hds : ∀ c ∈ ds, isDigit c = true) :
    Numeral (ws ++ '.' :: ds) := by
  have hcs : Numeral (ws ++ ('.' :: ds ++ [])) := .mk h (.point hne hds) .none
  rwa [List.append_nil] at hcs

/-! ## Decimal digits -/

theorem exists_toDigits_eq_cons (n : Nat) : ∃ d ds, Nat.toDigits 10 n = d :: ds :=
  List.exists_cons_of_ne_nil Nat.toDigits_ne_nil

theorem exists_toDigits_of_ne_zero {n : Nat} (h : n ≠ 0) :
    ∃ d ds, Nat.toDigits 10 n = d :: ds ∧ isDigit d = true ∧ d ≠ '0' ∧
      ∀ c ∈ ds, isDigit c = true := by
  have hhead := head?_toDigits_ne (Nat.pos_of_ne_zero h)
  have hall : ∀ c ∈ Nat.toDigits 10 n, isDigit c = true := fun _ => isDigit_of_mem_toDigits
  obtain ⟨d, ds, hds⟩ := exists_toDigits_eq_cons n
  rw [hds] at hhead hall
  obtain ⟨hd, hmore⟩ := List.forall_mem_cons.1 hall
  exact ⟨d, ds, hds, hd, fun hz => hhead (by rw [hz]; rfl), hmore⟩

theorem whole_toDigits (n : Nat) : Whole (Nat.toDigits 10 n) := by
  by_cases hz : n = 0
  · subst hz
    exact .zero
  · obtain ⟨d, ds, hds, hd, hne, hmore⟩ := exists_toDigits_of_ne_zero hz
    rw [hds]
    exact .digits hd hne hmore

theorem power_lead (lead : Int) :
    Power ('e' :: (if lead < 0 then '-' else '+') :: (Nat.repr lead.natAbs).toList) := by
  have hall : ∀ c ∈ Nat.toDigits 10 lead.natAbs, isDigit c = true :=
    fun _ => isDigit_of_mem_toDigits
  obtain ⟨d, ds, hds⟩ := exists_toDigits_eq_cons lead.natAbs
  rw [hds] at hall
  rw [Nat.repr_eq_ofList_toDigits, String.toList_ofList, hds]
  refine .exponent ?_ hall
  split
  · exact .inr rfl
  · exact .inl rfl

end Json

/-! ## Shortest texts -/

namespace Binary64

open Json

theorem Interval.pos_of_contains {i : Interval} {n : Nat} (hi : 0 < i.low)
    (h : i.contains n = true) : 0 < n := by
  unfold contains at h
  split at h
  all_goals
    simp only [Bool.and_eq_true, decide_eq_true_eq] at h
    omega

/-- Zero is on every grid, but in no interval above it. -/
theorem Interval.ne_zero_of_onGrid? {i : Interval} {p : Int} {d : Nat} (hi : 0 < i.low)
    (h : i.onGrid? p = some d) : d ≠ 0 := by
  have hlow : 0 < i.low * Nat.pow 10 (-p).toNat := Nat.mul_pos hi (Nat.pow_pos (by decide))
  unfold onGrid? at h
  dsimp only at h
  split at h
  · rename_i hin _
    have hne := Nat.ne_zero_of_mul_ne_zero_left (Nat.ne_of_gt (pos_of_contains hlow hin))
    rw [← Option.some.inj h]
    split
    · exact hne
    · exact Nat.succ_ne_zero _
  · rename_i hin _
    rw [← Option.some.inj h]
    exact Nat.ne_zero_of_mul_ne_zero_left (Nat.ne_of_gt (pos_of_contains hlow hin))
  · rw [← Option.some.inj h]
    exact Nat.succ_ne_zero _
  · cases h

theorem Interval.coarsest_cases {i : Interval} (hi : 0 < i.low) (p : Int) (fuel : Nat) :
    (i.coarsest p fuel).1 ≠ 0 ∨ i.coarsest p fuel = (0, 0) := by
  induction fuel generalizing p with
  | zero => exact .inr rfl
  | succ fuel ih =>
    rw [coarsest]
    split
    · rename_i d hd
      exact .inl (ne_zero_of_onGrid? hi hd)
    · exact ih (p - 1)

theorem interval_low_pos {x : Binary64} (h : x.mantissa ≠ 0) : 0 < x.interval.low := by
  have hscale : 0 < Nat.pow 2 x.exponent.toNat := Nat.pow_pos (by decide)
  refine Nat.mul_pos ?_ hscale
  split <;> omega

/-! ## Layouts -/

theorem isDigit_of_mem_zeros {n : Nat} {c : Char} (h : c ∈ List.replicate n '0') :
    isDigit c = true := by
  rw [List.eq_of_mem_replicate h]
  decide

section Layouts

variable {d : Char} {ds : List Char} (hd : isDigit d = true) (hz : d ≠ '0')
  (hds : ∀ c ∈ ds, isDigit c = true)
include hd hz hds

theorem numeral_scientific (lead : Int) :
    Numeral ((match d :: ds with
      | [] => []
      | [d] => [d]
      | d :: rest => d :: '.' :: rest) ++
        'e' :: (if lead < 0 then '-' else '+') :: (Nat.repr lead.natAbs).toList) := by
  cases ds with
  | nil => exact .mk (.digits hd hz hds) .none (power_lead lead)
  | cons c more =>
    have hone : Whole [d] := .digits hd hz nofun
    exact .mk hone (.point (List.cons_ne_nil c more) hds) (power_lead lead)

/-- The point stands behind the first `n + 1` of the digits, with a zero behind it if there are no
more of them. -/
theorem numeral_positional (n : Nat) :
    Numeral ((d :: ds).take (n + 1) ++ '.' ::
      (if ((d :: ds).drop (n + 1)).isEmpty then ['0'] else (d :: ds).drop (n + 1))) := by
  rw [List.take_succ_cons, List.drop_succ_cons]
  have hwhole : Whole (d :: ds.take n) := .digits hd hz fun c hc => hds c (List.mem_of_mem_take hc)
  split
  · exact hwhole.numeral_point (List.cons_ne_nil _ _) (List.forall_mem_singleton.2 rfl)
  · rename_i hne
    refine hwhole.numeral_point ?_ fun c hc => hds c (List.mem_of_mem_drop hc)
    simpa using hne

theorem numeral_layout (e : Int) : Numeral (layout (d :: ds) e) := by
  have hall : ∀ c ∈ d :: ds, isDigit c = true := List.forall_mem_cons.2 ⟨hd, hds⟩
  unfold layout
  dsimp only
  split
  · exact numeral_scientific hd hz hds _
  split
  · -- The digits come behind the point, and the whole part is a zero of its own.
    refine Whole.zero.numeral_point (by simp) fun c hc => ?_
    exact (List.mem_append.1 hc).elim isDigit_of_mem_zeros (hall c)
  · obtain ⟨n, hn⟩ : ∃ n, (e + (d :: ds).length - 1 + 1).toNat = n + 1 :=
      Nat.exists_eq_succ_of_ne_zero (by omega)
    rw [hn]
    exact numeral_positional hd hz
      (fun c hc => (List.mem_append.1 hc).elim (hds c) isDigit_of_mem_zeros) n

end Layouts

theorem numeral_zero : Numeral ['0', '.', '0'] :=
  Whole.zero.numeral_point (List.cons_ne_nil '0' []) (List.forall_mem_singleton.2 rfl)

theorem numeral_shortest {x : Binary64} (h : x.mantissa ≠ 0) :
    Numeral (layout (Nat.repr x.shortest.1).toList x.shortest.2) := by
  rw [Nat.repr_eq_ofList_toDigits, String.toList_ofList]
  rcases Interval.coarsest_cases (interval_low_pos h) 308 640 with hne | hzero
  · obtain ⟨d, ds, hds, hd, hz, hmore⟩ := exists_toDigits_of_ne_zero hne
    rw [shortest, hds]
    exact numeral_layout hd hz hmore _
  · rw [shortest, hzero]
    exact numeral_zero

theorem exists_numeral (x : Binary64) :
    ∃ cs, Numeral cs ∧ (x.chars = cs ∨ x.chars = '-' :: cs) := by
  have hmagnitude : Numeral (if x.isZero then ['0', '.', '0']
      else layout (Nat.repr x.shortest.1).toList x.shortest.2) := by
    split
    · exact numeral_zero
    · rename_i h
      exact numeral_shortest fun hz => h (by rw [isZero, hz]; rfl)
  refine ⟨_, hmagnitude, ?_⟩
  rw [chars]
  cases x.negative with
  | false => exact .inl rfl
  | true => exact .inr rfl

end Binary64

namespace Json

theorem Number.exists_numeral (n : Number) :
    ∃ cs, Numeral cs ∧ (n.chars = cs ∨ n.chars = '-' :: cs) := by
  cases n with
  | real x => exact x.exists_numeral
  | int n =>
    refine ⟨_, (whole_toDigits n.natAbs).numeral, ?_⟩
    rw [Number.chars, Nat.repr_eq_ofList_toDigits, String.toList_ofList]
    split
    · exact .inr rfl
    · exact .inl rfl

end Json
end ApiSuite
