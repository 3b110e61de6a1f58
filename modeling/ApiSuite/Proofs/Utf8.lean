import Mathlib.Data.List.Forall2
import Mathlib.Tactic.SplitIfs
import ApiSuite.Text.Utf8

/-! # Reading UTF-8

The strict reading of bytes accepts the encodings of texts and nothing else. A spelling under way
keeps to the ranges that its leading byte allows, so a complete one is the encoding of the character
it is assembled into; and whatever is read, the bytes of the symbols are the bytes that were read.
-/
namespace ApiSuite.Text

/-! ## Spellings -/

theorem toNat_and_low (b mask : UInt8) (k n : Nat) (hn : Nat.pow 2 k = n) (h : mask.toNat = n - 1) :
    (b &&& mask).toNat = b.toNat % n := by
  rw [UInt8.toNat_and, h, ← hn]
  exact Nat.and_two_pow_sub_one_eq_mod b.toNat k

theorem toNat_ofNat_of_valid {n : Nat} (h : n.isValidChar) : (Char.ofNat n).val.toNat = n := by
  rw [Char.ofNat, dif_pos h]
  rfl

theorem ofNat_eq_of_toNat {n : Nat} {b : UInt8} (h : n = b.toNat) : UInt8.ofNat n = b := by
  rw [h, UInt8.ofNat_toNat]

theorem utf8EncodeChar_injective : Function.Injective String.utf8EncodeChar := by
  intro c d h
  have hc := ByteArray.utf8DecodeChar?_utf8EncodeChar_append (b := .empty) (c := c)
  rw [h, ByteArray.utf8DecodeChar?_utf8EncodeChar_append] at hc
  exact (Option.some.inj hc).symm

theorem utf8EncodeChar_of_lt {c : Char} (h : c.toNat < 0x80) :
    String.utf8EncodeChar c = [UInt8.ofNat c.toNat] := by
  have hvalue : c.val.toNat ≤ 0x7F := Nat.le_of_lt_succ h
  rw [String.utf8EncodeChar.eq_def]
  exact if_pos hvalue

theorem toNat_ofNat_of_lt {c : Char} (h : c.toNat < 0x80) :
    (UInt8.ofNat c.toNat).toNat = c.toNat :=
  UInt8.toNat_ofNat_of_lt' (Nat.lt_trans h (by decide))

theorem utf8EncodeChar_ofNat {b : UInt8} (h : b < 0x80) :
    String.utf8EncodeChar (Char.ofNat b.toNat) = [b] := by
  have hlt : b.toNat < 0x80 := UInt8.lt_iff_toNat_lt.1 h
  have hvalue : (Char.ofNat b.toNat).toNat = b.toNat :=
    toNat_ofNat_of_valid (.inl (by omega))
  rw [utf8EncodeChar_of_lt (by omega), hvalue, UInt8.ofNat_toNat]

/-- The sequences of two to four bytes that encode a character: no character is spelled longer than
it has to be, none is a surrogate and none is above the last one. -/
inductive Spelling : List UInt8 → Prop
  | two {lead t : UInt8} (hlead : 0xC2 ≤ lead.toNat ∧ lead.toNat ≤ 0xDF)
    (ht : 0x80 ≤ t.toNat ∧ t.toNat ≤ 0xBF) : Spelling [lead, t]
  | three {lead s t : UInt8} (hlead : 0xE0 ≤ lead.toNat ∧ lead.toNat ≤ 0xEF)
    (hs : 0x80 ≤ s.toNat ∧ s.toNat ≤ 0xBF) (ht : 0x80 ≤ t.toNat ∧ t.toNat ≤ 0xBF)
    (hshort : lead.toNat = 0xE0 → 0xA0 ≤ s.toNat)
    (hsurrogate : lead.toNat = 0xED → s.toNat ≤ 0x9F) : Spelling [lead, s, t]
  | four {lead r s t : UInt8} (hlead : 0xF0 ≤ lead.toNat ∧ lead.toNat ≤ 0xF4)
    (hr : 0x80 ≤ r.toNat ∧ r.toNat ≤ 0xBF) (hs : 0x80 ≤ s.toNat ∧ s.toNat ≤ 0xBF)
    (ht : 0x80 ≤ t.toNat ∧ t.toNat ≤ 0xBF) (hshort : lead.toNat = 0xF0 → 0x90 ≤ r.toNat)
    (hlast : lead.toNat = 0xF4 → r.toNat ≤ 0x8F) : Spelling [lead, r, s, t]

def Within (t : UInt8) (range : UInt8 × UInt8) : Prop := range.1 ≤ t ∧ t ≤ range.2

theorem within_iff {t lo hi : UInt8} :
    Within t (lo, hi) ↔ lo.toNat ≤ t.toNat ∧ t.toNat ≤ hi.toNat := by
  rw [Within, UInt8.le_iff_toNat_le, UInt8.le_iff_toNat_le]

theorem continuation_eq (b : UInt8) : continuation b =
    if 0xC2 ≤ b.toNat ∧ b.toNat ≤ 0xDF then [(0x80, 0xBF)]
    else if 0xE0 ≤ b.toNat ∧ b.toNat ≤ 0xEF then
      [(if b.toNat = 0xE0 then 0xA0 else 0x80, if b.toNat = 0xED then 0x9F else 0xBF),
        (0x80, 0xBF)]
    else if 0xF0 ≤ b.toNat ∧ b.toNat ≤ 0xF4 then
      [(if b.toNat = 0xF0 then 0x90 else 0x80, if b.toNat = 0xF4 then 0x8F else 0xBF),
        (0x80, 0xBF), (0x80, 0xBF)]
    else [] := by
  unfold continuation
  simp only [Bool.and_eq_true, decide_eq_true_eq, beq_iff_eq, UInt8.le_iff_toNat_le,
    ← UInt8.toNat_inj, UInt8.reduceToNat]
  split_ifs <;> first | rfl | omega

theorem spelling_of_within {lead : UInt8} {tails : List UInt8} (hne : tails ≠ [])
    (h : List.Forall₂ Within tails (continuation lead)) : Spelling (lead :: tails) := by
  rw [continuation_eq] at h
  by_cases htwo : 0xC2 ≤ lead.toNat ∧ lead.toNat ≤ 0xDF
  · rw [if_pos htwo] at h
    cases h with
    | cons ht h =>
      cases h
      exact .two htwo (within_iff.1 ht)
  rw [if_neg htwo] at h
  by_cases hthree : 0xE0 ≤ lead.toNat ∧ lead.toNat ≤ 0xEF
  · rw [if_pos hthree] at h
    cases h with
    | @cons s _ _ _ hs h =>
      cases h with
      | cons ht h =>
        cases h
        simp only [within_iff, apply_ite UInt8.toNat, UInt8.reduceToNat] at hs
        have hrange : 0x80 ≤ s.toNat ∧ s.toNat ≤ 0xBF := by split_ifs at hs <;> omega
        refine .three hthree hrange (within_iff.1 ht) (fun heq => ?_) (fun heq => ?_)
        · rw [if_pos heq] at hs
          exact hs.1
        · rw [if_pos heq] at hs
          exact hs.2
  rw [if_neg hthree] at h
  by_cases hfour : 0xF0 ≤ lead.toNat ∧ lead.toNat ≤ 0xF4
  · rw [if_pos hfour] at h
    cases h with
    | @cons r _ _ _ hr h =>
      cases h with
      | cons hs h =>
        cases h with
        | cons ht h =>
          cases h
          simp only [within_iff, apply_ite UInt8.toNat, UInt8.reduceToNat] at hr
          have hrange : 0x80 ≤ r.toNat ∧ r.toNat ≤ 0xBF := by split_ifs at hr <;> omega
          refine .four hfour hrange (within_iff.1 hs) (within_iff.1 ht) (fun heq => ?_)
            (fun heq => ?_)
          · rw [if_pos heq] at hr
            exact hr.1
          · rw [if_pos heq] at hr
            exact hr.2
  · rw [if_neg hfour] at h
    cases h
    exact absurd rfl hne

theorem Spelling.within {lead : UInt8} {tails : List UInt8} (h : Spelling (lead :: tails)) :
    List.Forall₂ Within tails (continuation lead) := by
  rw [continuation_eq]
  cases h with
  | two hlead ht =>
    rw [if_pos hlead]
    exact .cons (within_iff.2 ht) .nil
  | @three _ s t hlead hs ht hshort hsurrogate =>
    rw [if_neg (by omega), if_pos hlead]
    refine .cons (within_iff.2 ?_) (.cons (within_iff.2 ht) .nil)
    simp only [apply_ite UInt8.toNat, UInt8.reduceToNat]
    split_ifs <;> omega
  | @four _ r s t hlead hr hs ht hshort hlast =>
    rw [if_neg (by omega), if_neg (by omega), if_pos hlead]
    refine .cons (within_iff.2 ?_) (.cons (within_iff.2 hs) (.cons (within_iff.2 ht) .nil))
    simp only [apply_ite UInt8.toNat, UInt8.reduceToNat]
    split_ifs <;> omega

section Assembling

variable {lead r s t : UInt8}

theorem assemble_two (h : lead.toNat < 0xE0) :
    assemble [lead, t] = Char.ofNat (lead.toNat % 32 * 64 + t.toNat % 64) := by
  have hlow : lead < 0xE0 := UInt8.lt_iff_toNat_lt.2 h
  simp only [assemble, if_pos hlow, List.foldl_cons, List.foldl_nil,
    toNat_and_low _ 0x1F 5 32 rfl rfl, toNat_and_low _ 0x3F 6 64 rfl rfl]

theorem assemble_three (hlow : 0xE0 ≤ lead.toNat) (hhigh : lead.toNat < 0xF0) :
    assemble [lead, s, t] =
      Char.ofNat ((lead.toNat % 16 * 64 + s.toNat % 64) * 64 + t.toNat % 64) := by
  have htwo : ¬lead < 0xE0 := fun h => Nat.not_lt.2 hlow (UInt8.lt_iff_toNat_lt.1 h)
  have hthree : lead < 0xF0 := UInt8.lt_iff_toNat_lt.2 hhigh
  simp only [assemble, if_neg htwo, if_pos hthree, List.foldl_cons, List.foldl_nil,
    toNat_and_low _ 0x0F 4 16 rfl rfl, toNat_and_low _ 0x3F 6 64 rfl rfl]

theorem assemble_four (h : 0xF0 ≤ lead.toNat) :
    assemble [lead, r, s, t] = Char.ofNat
      (((lead.toNat % 8 * 64 + r.toNat % 64) * 64 + s.toNat % 64) * 64 + t.toNat % 64) := by
  have hthree : ¬lead < 0xF0 := fun hlt => Nat.not_lt.2 h (UInt8.lt_iff_toNat_lt.1 hlt)
  have htwo : ¬lead < 0xE0 := fun hlt => hthree (UInt8.lt_trans hlt (by decide))
  simp only [assemble, if_neg htwo, if_neg hthree, List.foldl_cons, List.foldl_nil,
    toNat_and_low _ 0x07 3 8 rfl rfl, toNat_and_low _ 0x3F 6 64 rfl rfl]

end Assembling

/-- A complete spelling is the encoding of the character that it is assembled into. -/
theorem Spelling.utf8EncodeChar_assemble {bytes : List UInt8} (h : Spelling bytes) :
    String.utf8EncodeChar (assemble bytes) = bytes := by
  cases h with
  | @two lead t hlead ht =>
    have hvalid : (lead.toNat % 32 * 64 + t.toNat % 64).isValidChar := .inl (by omega)
    rw [assemble_two (by omega), String.utf8EncodeChar.eq_def, toNat_ofNat_of_valid hvalid]
    simp only
    rw [if_neg (by omega), if_pos (by omega), ofNat_eq_of_toNat (b := lead) (by omega),
      ofNat_eq_of_toNat (b := t) (by omega)]
  | @three lead s t hlead hs ht hshort hsurrogate =>
    have hvalid :
        ((lead.toNat % 16 * 64 + s.toNat % 64) * 64 + t.toNat % 64).isValidChar := by
      unfold Nat.isValidChar
      omega
    rw [assemble_three hlead.1 (by omega), String.utf8EncodeChar.eq_def,
      toNat_ofNat_of_valid hvalid]
    simp only
    rw [if_neg (by omega), if_neg (by omega), if_pos (by omega),
      ofNat_eq_of_toNat (b := lead) (by omega), ofNat_eq_of_toNat (b := s) (by omega),
      ofNat_eq_of_toNat (b := t) (by omega)]
  | @four lead r s t hlead hr hs ht hshort hlast =>
    have hvalid : (((lead.toNat % 8 * 64 + r.toNat % 64) * 64 + s.toNat % 64) * 64
        + t.toNat % 64).isValidChar := by
      unfold Nat.isValidChar
      omega
    rw [assemble_four hlead.1, String.utf8EncodeChar.eq_def, toNat_ofNat_of_valid hvalid]
    simp only
    rw [if_neg (by omega), if_neg (by omega), if_neg (by omega),
      ofNat_eq_of_toNat (b := lead) (by omega), ofNat_eq_of_toNat (b := r) (by omega),
      ofNat_eq_of_toNat (b := s) (by omega), ofNat_eq_of_toNat (b := t) (by omega)]

theorem Spelling.le_of_mem {bytes : List UInt8} (h : Spelling bytes) {b : UInt8}
    (hb : b ∈ bytes) : 0x80 ≤ b.toNat := by
  cases h <;> simp only [List.mem_cons, List.not_mem_nil, or_false] at hb <;>
    rcases hb with rfl | rfl | rfl | rfl <;> omega

theorem spelling_utf8EncodeChar {c : Char} (h : ¬c.toNat < 0x80) :
    Spelling (String.utf8EncodeChar c) := by
  have hvalid : c.val.toNat.isValidChar := c.valid
  have hhigh : ¬c.val.toNat ≤ 0x7F := fun hle => h (Nat.lt_succ_of_le hle)
  rw [String.utf8EncodeChar.eq_def]
  simp only
  rw [if_neg hhigh]
  unfold Nat.isValidChar at hvalid
  split_ifs with htwo hthree
  · apply Spelling.two <;> simp only [UInt8.toNat_ofNat', Nat.reducePow] <;> omega
  · apply Spelling.three <;> simp only [UInt8.toNat_ofNat', Nat.reducePow] <;> omega
  · apply Spelling.four <;> simp only [UInt8.toNat_ofNat', Nat.reducePow] <;> omega

/-! ## The bytes of what is read -/

/-- The bytes that a symbol has been read from. -/
def Symbol.bytes : Symbol → List UInt8
  | char c => String.utf8EncodeChar c
  | stray bytes => bytes

namespace Partial

/-- Nothing has been seen, or a leading byte and further ones in their ranges, with others to
come. -/
def Underway (p : Partial) : Prop :=
  p.bytes = [] ∧ p.expected = [] ∨
    ∃ lead tails passed, p.bytes = lead :: tails ∧ List.Forall₂ Within tails passed ∧
      continuation lead = passed ++ p.expected ∧ p.expected ≠ []

theorem underway_idle : idle.Underway := .inl ⟨rfl, rfl⟩

theorem start_spec (b : UInt8) :
    (start b).1.flatMap Symbol.bytes ++ (start b).2.bytes = [b] ∧ (start b).2.Underway := by
  rw [start]
  by_cases hb : b < 0x80
  · rw [if_pos hb]
    refine ⟨?_, underway_idle⟩
    simp only [List.flatMap_cons, List.flatMap_nil, Symbol.bytes, idle, List.append_nil]
    exact utf8EncodeChar_ofNat hb
  · rw [if_neg hb]
    cases hc : continuation b with
    | nil => exact ⟨rfl, underway_idle⟩
    | cons range more => exact ⟨rfl, .inr ⟨b, [], [], rfl, .nil, hc, nofun⟩⟩

/-- A step keeps all bytes: they are in the symbols it yields or in the spelling it goes on with. -/
theorem step_spec {p : Partial} (hp : p.Underway) (b : UInt8) :
    (p.step b).1.flatMap Symbol.bytes ++ (p.step b).2.bytes = p.bytes ++ [b] ∧
      (p.step b).2.Underway := by
  obtain ⟨hstart, hnext⟩ := start_spec b
  rw [step]
  rcases hp with ⟨hbytes, hexpected⟩ | ⟨lead, tails, passed, hbytes, htails, hranges, hne⟩
  · rw [hexpected, hbytes]
    exact ⟨hstart, hnext⟩
  · cases hexpected : p.expected with
    | nil => exact absurd hexpected hne
    | cons range more =>
      obtain ⟨lo, hi⟩ := range
      dsimp only
      by_cases hwithin : (lo ≤ b && b ≤ hi) = true
      · rw [if_pos hwithin]
        rw [Bool.and_eq_true, decide_eq_true_eq, decide_eq_true_eq] at hwithin
        have hpassed : List.Forall₂ Within (tails ++ [b]) (passed ++ [(lo, hi)]) :=
          List.rel_append htails (.cons hwithin .nil)
        rw [hexpected] at hranges
        cases more with
        | nil =>
          have hspelling : Spelling (lead :: (tails ++ [b])) := by
            refine spelling_of_within (by simp) ?_
            rw [hranges]
            exact hpassed
          refine ⟨?_, underway_idle⟩
          simp only [List.flatMap_cons, List.flatMap_nil, Symbol.bytes, idle, List.append_nil,
            hbytes]
          exact hspelling.utf8EncodeChar_assemble
        | cons next more =>
          refine ⟨rfl, .inr ⟨lead, tails ++ [b], passed ++ [(lo, hi)], ?_, hpassed, ?_, nofun⟩⟩
          · rw [hbytes]
            rfl
          · rw [hranges, List.append_assoc]
            rfl
      · rw [if_neg hwithin]
        refine ⟨?_, hnext⟩
        simp only [List.flatMap_cons, Symbol.bytes, List.append_assoc, hstart]

theorem flatMap_bytes_run {p : Partial} (hp : p.Underway) (bytes : List UInt8) :
    (p.run bytes).flatMap Symbol.bytes = p.bytes ++ bytes := by
  induction bytes generalizing p with
  | nil =>
    rw [run, finish, List.append_nil]
    cases hbytes : p.bytes with
    | nil => rfl
    | cons first rest => exact List.append_nil _
  | cons b rest ih =>
    obtain ⟨hbytes, hnext⟩ := step_spec hp b
    rw [run, List.flatMap_append, ih hnext, ← List.append_assoc, hbytes, List.append_assoc]
    rfl

/-- A spelling that goes on with bytes in their ranges becomes a character. -/
theorem run_append_of_within {p : Partial} {tails : List UInt8} (hne : tails ≠ [])
    (h : List.Forall₂ Within tails p.expected) (rest : List UInt8) :
    p.run (tails ++ rest) = .char (assemble (p.bytes ++ tails)) :: idle.run rest := by
  induction tails generalizing p with
  | nil => exact absurd rfl hne
  | cons b tails ih =>
    cases hexpected : p.expected with
    | nil =>
      rw [hexpected] at h
      cases h
    | cons range more =>
      rw [hexpected] at h
      cases h with
      | cons hb htails =>
        obtain ⟨lo, hi⟩ := range
        have hwithin : (lo ≤ b && b ≤ hi) = true := by
          rw [Bool.and_eq_true, decide_eq_true_eq, decide_eq_true_eq]
          exact hb
        rw [List.cons_append, run, step, hexpected]
        dsimp only
        rw [if_pos hwithin]
        cases htails with
        | nil => rfl
        | cons hnext htails =>
          have hrun := ih (p := ⟨p.bytes ++ [b], _ :: _⟩) nofun (.cons hnext htails)
          rw [List.append_assoc] at hrun
          exact hrun

end Partial

theorem flatMap_bytes_decode (bytes : List UInt8) :
    (decode bytes).flatMap Symbol.bytes = bytes :=
  Partial.flatMap_bytes_run Partial.underway_idle bytes

/-! ## Encodings -/

/-- The first byte of a spelling opens it. -/
theorem Spelling.start_lead {lead : UInt8} {tails : List UInt8} (h : Spelling (lead :: tails)) :
    Partial.start lead = ([], ⟨[lead], continuation lead⟩) := by
  have hge : 0x80 ≤ lead.toNat := by cases h <;> omega
  have hhigh : ¬lead < 0x80 := by
    rw [UInt8.lt_iff_toNat_lt]
    exact Nat.not_lt.2 hge
  have hwithin := h.within
  rw [Partial.start, if_neg hhigh]
  cases hc : continuation lead with
  | nil =>
    rw [hc] at hwithin
    cases hwithin
    cases h
  | cons range more => rfl

theorem run_utf8EncodeChar_append (c : Char) (rest : List UInt8) :
    Partial.idle.run (String.utf8EncodeChar c ++ rest) = .char c :: Partial.idle.run rest := by
  by_cases hc : c.toNat < 0x80
  · have hlow : UInt8.ofNat c.toNat < 0x80 := by
      rw [UInt8.lt_iff_toNat_lt, toNat_ofNat_of_lt hc]
      exact hc
    rw [utf8EncodeChar_of_lt hc, List.singleton_append, Partial.run]
    change (Partial.start _).1 ++ (Partial.start _).2.run rest = _
    rw [Partial.start, if_pos hlow, toNat_ofNat_of_lt hc, Char.ofNat_toNat]
    rfl
  · have hspelling : Spelling (String.utf8EncodeChar c) := spelling_utf8EncodeChar hc
    have hassemble : assemble (String.utf8EncodeChar c) = c :=
      utf8EncodeChar_injective hspelling.utf8EncodeChar_assemble
    cases hbytes : String.utf8EncodeChar c with
    | nil =>
      rw [hbytes] at hspelling
      cases hspelling
    | cons lead tails =>
      rw [hbytes] at hspelling hassemble
      have hne : tails ≠ [] := by
        rintro rfl
        cases hspelling
      rw [List.cons_append, Partial.run]
      change (Partial.start _).1 ++ (Partial.start _).2.run _ = _
      rw [hspelling.start_lead]
      refine (Partial.run_append_of_within hne hspelling.within rest).trans ?_
      rw [List.singleton_append, hassemble]

theorem decode_encode (text : String) : decode (encode text) = symbols text.toList := by
  rw [decode, encode, symbols]
  induction text.toList with
  | nil => rfl
  | cons c cs ih => rw [List.flatMap_cons, run_utf8EncodeChar_append, ih, List.map_cons]

theorem firstStray_eq_none_iff {offset : Nat} {read : List Symbol} :
    firstStray offset read = none ↔ ∃ cs, read = symbols cs := by
  induction read generalizing offset with
  | nil => exact ⟨fun _ => ⟨[], rfl⟩, fun _ => rfl⟩
  | cons s rest ih =>
    cases s with
    | char c =>
      rw [firstStray, ih]
      constructor
      · rintro ⟨cs, rfl⟩
        exact ⟨c :: cs, rfl⟩
      · rintro ⟨cs, hcs⟩
        cases cs with
        | nil => cases hcs
        | cons d cs => exact ⟨cs, (List.cons.inj hcs).2⟩
    | stray bytes =>
      refine ⟨nofun, ?_⟩
      rintro ⟨cs, hcs⟩
      cases cs <;> cases hcs

/-- Bytes are the text that they encode, and no text when they encode none. -/
theorem toText_eq_ok_iff {bytes : List UInt8} {text : String} :
    toText bytes = .ok text ↔ encode text = bytes := by
  have hchars : ∀ cs : List Char, (symbols cs).filterMap Symbol.toChar? = cs := by
    intro cs
    induction cs with
    | nil => rfl
    | cons c cs ih => exact congrArg (c :: ·) ih
  have hbytes : ∀ cs : List Char,
      (symbols cs).flatMap Symbol.bytes = cs.flatMap String.utf8EncodeChar := by
    intro cs
    rw [symbols, List.flatMap_map]
    rfl
  constructor
  · intro h
    rw [toText] at h
    cases hs : firstStray 0 (decode bytes) with
    | some m =>
      simp only [hs] at h
      cases h
    | none =>
      obtain ⟨cs, hcs⟩ := firstStray_eq_none_iff.1 hs
      simp only [hs] at h
      obtain rfl := Except.ok.inj h
      rw [hcs, hchars]
      rw [encode, String.toList_ofList, ← hbytes, ← hcs, flatMap_bytes_decode]
  · rintro rfl
    have hnone : firstStray 0 (symbols text.toList) = none :=
      firstStray_eq_none_iff.2 ⟨_, rfl⟩
    simp only [toText, decode_encode, hnone, hchars, String.ofList_toList]

/-- A byte of ASCII in an encoding is a character of its own. -/
theorem mem_of_mem_encode {text : String} {b : UInt8} (hb : b < 0x80) (h : b ∈ encode text) :
    Char.ofNat b.toNat ∈ text.toList := by
  obtain ⟨c, hc, hmem⟩ := List.mem_flatMap.1 h
  by_cases hlow : c.toNat < 0x80
  · rw [utf8EncodeChar_of_lt hlow, List.mem_singleton] at hmem
    rw [hmem, toNat_ofNat_of_lt hlow, Char.ofNat_toNat]
    exact hc
  · have hhigh := (spelling_utf8EncodeChar hlow).le_of_mem hmem
    exact absurd (UInt8.lt_iff_toNat_lt.1 hb) (Nat.not_lt.2 hhigh)

end ApiSuite.Text
