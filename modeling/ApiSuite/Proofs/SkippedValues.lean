import ApiSuite.Json.Skip
import ApiSuite.Proofs.RoundTrip

/-! # Values passed over

The text of a value is passed over as a whole, whatever numbers and strings it holds, in whatever
order its fields come and however deep it nests. The containers that are open around a value decide
what comes after it, and a round is described for any such continuation: what goes on behind the
value goes on in front of it, with at most one more round for each character.
-/
namespace ApiSuite.Json.Reader
open Text

/-! ## Numbers and strings -/

theorem takes_skipDigits {ds : List Char} {rest : Input} (hds : ∀ c ∈ ds, isDigit c = true)
    (hr : EndsDigits rest) : Takes skipDigits (symbols ds ++ rest) () rest :=
  (takes_digits hds hr).bind (takes_pure () rest)

theorem takes_skipExponent {sign d : Char} {ds : List Char} {rest : Input}
    (hsign : sign = '+' ∨ sign = '-') (hds : ∀ c ∈ d :: ds, isDigit c = true)
    (hr : EndsDigits rest) :
    Takes skipExponent (symbols ('e' :: sign :: d :: ds) ++ rest) () rest := by
  rcases hsign with rfl | rfl
  all_goals
    refine (takes_advance _ _).bind ((takes_peek _).bind ((takes_advance _ _).bind
      ((takes_peek _).bind ?_)))
    change Takes (if isDigit d then skipDigits else _) _ _ _
    rw [if_pos (hds d List.mem_cons_self)]
    exact takes_skipDigits hds hr

def skipPower : Reader Unit := do
  match ← peek with
  | some (.char 'e') | some (.char 'E') => skipExponent
  | _ => return

theorem takes_skipPower {es : List Char} {rest : Input} (he : Power es) (hr : EndsNumber rest) :
    Takes skipPower (symbols es ++ rest) () rest := by
  cases he with
  | exponent hsign hes => exact (takes_peek _).bind (takes_skipExponent hsign hes hr.endsDigits)
  | none =>
    refine (takes_peek rest).bind ?_
    split
    · rename_i hlower
      exact absurd rfl (hr _ hlower).2.2.1
    · rename_i hupper
      exact absurd rfl (hr _ hupper).2.2.2
    · exact takes_pure () rest

def skipFraction : Reader Unit := do
  match ← peek with
  | some (.char '.') => skipDecimals
  | some (.char 'e') | some (.char 'E') => skipExponent
  | _ => return

theorem endsDigits_power {es : List Char} {rest : Input} (he : Power es) (hr : EndsNumber rest) :
    EndsDigits (symbols es ++ rest) := by
  cases he with
  | exponent => exact endsDigits_cons _ rfl
  | none => exact hr.endsDigits

theorem takes_skipFraction {ds es : List Char} {rest : Input} (hd : Decimals ds) (he : Power es)
    (hr : EndsNumber rest) : Takes skipFraction (symbols (ds ++ es) ++ rest) () rest := by
  cases hd with
  | none => cases he with
    | exponent hsign hes =>
      exact (takes_peek _).bind (takes_skipExponent hsign hes hr.endsDigits)
    | none =>
      refine (takes_peek rest).bind ?_
      split
      · rename_i hpoint
        exact absurd rfl (hr _ hpoint).2.1
      · rename_i hlower
        exact absurd rfl (hr _ hlower).2.2.1
      · rename_i hupper
        exact absurd rfl (hr _ hupper).2.2.2
      · exact takes_pure () rest
  | @point ds hne hds =>
    have hempty : ds.isEmpty = false := by simpa using hne
    have hdecimals : Takes skipDecimals (.char '.' :: (symbols ds ++ (symbols es ++ rest))) ()
        rest := by
      refine (takes_advance _ _).bind ((takes_digits hds (endsDigits_power he hr)).bind ?_)
      rw [hempty]
      exact takes_skipPower he hr
    rw [symbols_append, List.append_assoc]
    exact (takes_peek _).bind hdecimals

theorem endsDigits_fraction {ds es : List Char} {rest : Input} (hd : Decimals ds) (he : Power es)
    (hr : EndsNumber rest) : EndsDigits (symbols (ds ++ es) ++ rest) := by
  cases hd with
  | point => exact endsDigits_cons _ rfl
  | none => exact endsDigits_power he hr

theorem skipNumber_of_digit {d : Char} (input : Input) (hd : isDigit d = true) (hz : d ≠ '0') :
    skipNumber (.char d :: input) = (skipDigits >>= fun _ => skipFraction) (.char d :: input) := by
  rcases digit_cases hd with rfl | rfl | rfl | rfl | rfl | rfl | rfl | rfl | rfl | rfl
  · exact absurd rfl hz
  all_goals rfl

theorem takes_skipNumber {cs : List Char} {rest : Input} (h : Numeral cs) (hr : EndsNumber rest) :
    Takes skipNumber (symbols cs ++ rest) () rest := by
  obtain ⟨hw, hd, he⟩ := h
  rename_i ws ds es
  have hends : EndsDigits (symbols (ds ++ es) ++ rest) := endsDigits_fraction hd he hr
  have hfraction : Takes skipFraction (symbols (ds ++ es) ++ rest) () rest :=
    takes_skipFraction hd he hr
  rw [symbols_append, List.append_assoc]
  cases hw with
  | zero =>
    refine (takes_peek _).bind ((takes_advance _ _).bind ((takes_peek _).bind ?_))
    split
    · rename_i c hc
      rw [if_neg (by simp [hends c hc])]
      exact hfraction
    · exact hfraction
  | @digits d more hd hz hds =>
    have hskip : Takes (skipDigits >>= fun _ => skipFraction)
        (symbols (d :: more) ++ (symbols (ds ++ es) ++ rest)) () rest :=
      (takes_skipDigits (List.forall_mem_cons.2 ⟨hd, hds⟩) hends).bind hfraction
    exact (skipNumber_of_digit _ hd hz).trans hskip

theorem skipString_plain (input : Input) (fuel : Nat) {c : Char} (hquote : c ≠ '"')
    (hslash : c ≠ '\\') (hcontrol : ¬c.toNat < 0x20) :
    skipString (fuel + 1) (.char c :: input) = skipString fuel input := by
  let after : Reader Unit := do
    set input
    skipString fuel
  rw [skipString, bind_get]
  refine congrFun (g := after) ?_ (.char c :: input)
  split
  · rename_i hnil
    cases hnil
  · rename_i hcons
    cases hcons
    exact absurd rfl hquote
  · rename_i hcons
    cases hcons
    exact absurd rfl hslash
  · rename_i hcons
    cases hcons
    rw [if_neg hcontrol]
  · rename_i hcons
    cases hcons

theorem skipString_escaped {input after : Input} (fuel : Nat) {n : Nat}
    (h : Takes hexEscape input n after) :
    skipString (fuel + 1) (.char '\\' :: .char 'u' :: input) = skipString fuel after := by
  change (hexEscape input).bind (fun p => skipString fuel p.2) = _
  rw [h]
  rfl

/-- A character is passed over however it is written. -/
theorem skipString_char (input : Input) (fuel : Nat) (c : Char) :
    skipString (fuel + 1) (symbols (escaped c) ++ input) = skipString fuel input := by
  by_cases hshort : c = '"' ∨ c = '\\' ∨ c = '\x08' ∨ c = '\t' ∨ c = '\n' ∨ c = '\x0c' ∨ c = '\r'
  · rcases hshort with rfl | rfl | rfl | rfl | rfl | rfl | rfl
    all_goals rfl
  · simp only [not_or] at hshort
    obtain ⟨hquote, hslash, hb, ht, hn, hf, hr⟩ := hshort
    unfold escaped
    rw [if_neg hquote, if_neg hslash, if_neg hb, if_neg ht, if_neg hn, if_neg hf, if_neg hr]
    split
    · rename_i hcontrol
      have hzero : hexValue? (.char '0') = some 0 := rfl
      have hhigh := hexValue?_hexDigit (c.toNat / 16) (by omega)
      have hlow := hexValue?_hexDigit (c.toNat % 16) (by omega)
      exact skipString_escaped fuel (takes_hexEscape hzero hzero hhigh hlow input)
    · rename_i hcontrol
      exact skipString_plain input fuel hquote hslash hcontrol

theorem takes_skipString (rest : Input) {fuel : Nat} {cs : List Char} (h : cs.length < fuel) :
    Takes (skipString fuel) (symbols (cs.flatMap escaped) ++ .char '"' :: rest) () rest := by
  induction cs generalizing fuel with
  | nil =>
    obtain ⟨fuel, rfl⟩ := Nat.exists_eq_succ_of_ne_zero (Nat.ne_of_gt h)
    exact (takes_get _).bind (takes_set _ rest)
  | cons c cs ih =>
    obtain ⟨fuel, rfl⟩ := Nat.exists_eq_succ_of_ne_zero (Nat.ne_of_gt (Nat.zero_lt_of_lt h))
    rw [List.flatMap_cons, symbols_append, List.append_assoc]
    exact (skipString_char _ fuel c).trans (ih (Nat.lt_of_succ_lt_succ h))

theorem takes_skipKey {limits : Limits} {k : String} (rest : Input)
    (h : k.toList.length < limits.items) :
    Takes (skipKey limits) (symbols (stringChars k) ++ .char ':' :: rest) () rest := by
  rw [symbols_stringChars]
  exact (takes_blanks _ rfl).bind ((takes_peek _).bind ((takes_advance _ _).bind
    ((takes_skipString _ h).bind (takes_colon rest))))

theorem length_chars_pos (v : Json) : 0 < v.chars.length := by
  obtain ⟨c, more, hhead, -⟩ := chars_eq_cons v
  rw [hhead]
  exact Nat.succ_pos _

/-! ## Rounds -/

/-- Goes on inside the containers that are still open. -/
def resume (limits : Limits) (fuel : Nat) (stack : List Container) : Reader Unit :=
  match stack with
  | [] => return
  | .list :: _ => skipValues limits fuel stack
  | .object :: _ => do
    skipKey limits
    skipValues limits fuel stack

/-- What a round does behind the value that it passed over. -/
def afterValue (limits : Limits) (fuel : Nat) (stack : List Container) : Reader Unit := do
  let stack ← closeContainers true stack
  resume limits fuel stack

section Rounds

variable {limits : Limits} {fuel : Nat} {stack : List Container} {rest last : Input}

theorem takes_afterValue_nil (limits : Limits) (fuel : Nat) (rest : Input) :
    Takes (afterValue limits fuel []) rest () rest :=
  (takes_pure [] rest).bind (takes_pure () rest)

theorem takes_afterValue_comma (top : Container)
    (h : Takes (resume limits fuel (top :: stack)) rest () last) :
    Takes (afterValue limits fuel (top :: stack)) (.char ',' :: rest) () last := h

theorem takes_afterValue_list (h : Takes (afterValue limits fuel stack) rest () last) :
    Takes (afterValue limits fuel (.list :: stack)) (.char ']' :: rest) () last := h

theorem takes_afterValue_object (h : Takes (afterValue limits fuel stack) rest () last) :
    Takes (afterValue limits fuel (.object :: stack)) (.char '\x7d' :: rest) () last := h

theorem takes_skipValues_null (h : Takes (afterValue limits fuel stack) rest () last) :
    Takes (skipValues limits (fuel + 1) stack) (symbols Json.null.chars ++ rest) () last := h

theorem takes_skipValues_bool (b : Bool) (h : Takes (afterValue limits fuel stack) rest () last) :
    Takes (skipValues limits (fuel + 1) stack) (symbols (Json.bool b).chars ++ rest) () last := by
  cases b with
  | false => exact h
  | true => exact h

theorem takes_skipValues_str {s : String} (hs : s.toList.length < limits.items)
    (h : Takes (afterValue limits fuel stack) rest () last) :
    Takes (skipValues limits (fuel + 1) stack) (symbols (Json.str s).chars ++ rest) () last := by
  change Takes _ (symbols (stringChars s) ++ rest) _ _
  rw [symbols_stringChars]
  exact (takes_peekValue _ rfl).bind ((takes_advance _ _).bind ((takes_skipString rest hs).bind
    ((takes_pure none rest).bind h)))

theorem skipValues_of_digit {d : Char} (input : Input) (hd : isDigit d = true) :
    skipValues limits (fuel + 1) stack (.char d :: input) =
      (skipNumber >>= fun _ => afterValue limits fuel stack) (.char d :: input) := by
  rcases digit_cases hd with rfl | rfl | rfl | rfl | rfl | rfl | rfl | rfl | rfl | rfl
  all_goals rfl

theorem takes_skipValues_num {n : Number} (hr : EndsNumber rest)
    (h : Takes (afterValue limits fuel stack) rest () last) :
    Takes (skipValues limits (fuel + 1) stack) (symbols (Json.num n).chars ++ rest) () last := by
  change Takes _ (symbols n.chars ++ rest) _ _
  obtain ⟨cs, hcs, hn | hn⟩ := n.exists_numeral
  · have hskip : Takes (skipNumber >>= fun _ => afterValue limits fuel stack) (symbols cs ++ rest)
        () last :=
      (takes_skipNumber hcs hr).bind h
    rw [hn]
    obtain ⟨d, more, rfl, hd⟩ := hcs.exists_cons
    exact (skipValues_of_digit _ hd).trans hskip
  · rw [hn]
    exact (takes_peekValue _ rfl).bind ((takes_advance _ _).bind ((takes_skipNumber hcs hr).bind
      ((takes_pure none rest).bind h)))

theorem takes_skipValues_arr_nil (h : Takes (afterValue limits fuel stack) rest () last) :
    Takes (skipValues limits (fuel + 1) stack) (symbols (Json.arr []).chars ++ rest) () last := h

theorem takes_skipValues_obj_nil (h : Takes (afterValue limits fuel stack) rest () last) :
    Takes (skipValues limits (fuel + 1) stack) (symbols (Json.obj []).chars ++ rest) () last := h

theorem takes_skipValues_list {c : Char} (hb : isBlank (.char c) = false) (hc : c ≠ ']')
    (h : Takes (skipValues limits fuel (.list :: stack)) (.char c :: rest) () last) :
    Takes (skipValues limits (fuel + 1) stack) (.char '[' :: .char c :: rest) () last := by
  have hclose : Takes (closeContainers false (.list :: stack)) (.char c :: rest) (.list :: stack)
      (.char c :: rest) := by
    refine (takes_blanks rest hb).bind ((takes_peek _).bind ?_)
    change Takes (if Symbol.char c = .char ',' ∧ false = true then _ else
      if Symbol.char c = .char ']' then _ else _) _ _ _
    rw [if_neg (by simp), if_neg (by simpa using hc)]
    exact takes_pure _ _
  exact (takes_peekValue _ rfl).bind ((takes_advance _ _).bind ((takes_pure _ _).bind
    (hclose.bind h)))

theorem takes_skipValues_object {k : String} (hk : k.toList.length < limits.items)
    (h : Takes (skipValues limits fuel (.object :: stack)) rest () last) :
    Takes (skipValues limits (fuel + 1) stack)
      (.char '\x7b' :: (symbols (stringChars k) ++ .char ':' :: rest)) () last := by
  have hkey : Takes (skipKey limits >>= fun _ => skipValues limits fuel (.object :: stack))
      (symbols (stringChars k) ++ .char ':' :: rest) () last :=
    (takes_skipKey rest hk).bind h
  exact hkey

/-- The reader reaches the end when it is given at least `n` rounds. -/
def Reaches (n : Nat) (x : Nat → Reader Unit) (input last : Input) : Prop :=
  ∀ fuel, n ≤ fuel → Takes (x fuel) input () last

theorem Reaches.round {n m : Nat} {x y : Nat → Reader Unit} {input next : Input}
    (h : Reaches n x next last) (hnm : n < m)
    (hstep : ∀ fuel, Takes (x fuel) next () last → Takes (y (fuel + 1)) input () last) :
    Reaches m y input last := by
  intro fuel hm
  obtain ⟨fuel, rfl⟩ := Nat.exists_eq_succ_of_ne_zero (Nat.ne_of_gt (Nat.zero_lt_of_lt
    (Nat.lt_of_lt_of_le hnm hm)))
  exact hstep fuel (h fuel (by omega))

end Rounds

-- The recursion is on the value, once for all containers that may be open around it.
mutual

theorem reaches_skipValues {limits : Limits} : ∀ (v : Json) {stack : List Container} {n : Nat}
    {rest last : Input}, v.chars.length < limits.items → EndsNumber rest →
      Reaches n (afterValue limits · stack) rest last →
      Reaches (n + v.chars.length) (skipValues limits · stack) (symbols v.chars ++ rest) last
  | .null, _, n, _, _, _, _, h =>
    h.round (Nat.lt_add_of_pos_right (by decide)) fun _ => takes_skipValues_null
  | .bool b, _, n, _, _, _, _, h =>
    h.round (by have hb := length_chars_pos (.bool b); omega) fun _ => takes_skipValues_bool b
  | .num k, _, n, _, _, _, hr, h =>
    h.round (by have hk := length_chars_pos (.num k); omega) fun _ => takes_skipValues_num hr
  | .str s, _, n, _, _, hl, _, h => by
    have hs := length_stringChars s
    have hlength : (stringChars s).length < limits.items := hl
    have hpos := length_chars_pos (.str s)
    exact h.round (by omega) fun _ => takes_skipValues_str (by omega)
  | .arr [], _, n, _, _, _, _, h =>
    h.round (Nat.lt_add_of_pos_right (by decide)) fun _ => takes_skipValues_arr_nil
  | .arr (v :: items), _, n, rest, _, hl, _, h => by
    simp only [chars, List.length_cons, List.length_append] at hl
    obtain ⟨c, more, hhead, hb, hclose, -⟩ := chars_eq_cons v
    have hitems := reaches_items items (by omega) h
    have hv := reaches_skipValues v (by omega) (endsNumber_itemChars items rest) hitems
    have hsplit : symbols (arr (v :: items)).chars ++ rest =
        .char '[' :: (symbols v.chars ++ (symbols (itemChars items) ++ rest)) := by
      simp [symbols, chars]
    rw [hsplit]
    rw [hhead] at hv ⊢
    refine hv.round ?_ fun _ => takes_skipValues_list hb hclose
    simp only [chars, hhead, List.length_cons, List.length_append]
    omega
  | .obj [], _, n, _, _, _, _, h =>
    h.round (Nat.lt_add_of_pos_right (by decide)) fun _ => takes_skipValues_obj_nil
  | .obj ((k, v) :: fields), _, n, rest, _, hl, _, h => by
    have hk := length_stringChars k
    simp only [chars, List.length_cons, List.length_append] at hl
    have hfields := reaches_fields fields (by omega) h
    have hv := reaches_skipValues v (by omega) (endsNumber_fieldChars fields rest) hfields
    have hsplit : symbols (obj ((k, v) :: fields)).chars ++ rest =
        .char '\x7b' :: (symbols (stringChars k) ++
          .char ':' :: (symbols v.chars ++ (symbols (fieldChars fields) ++ rest))) := by
      simp [symbols, chars]
    rw [hsplit]
    refine hv.round ?_ fun _ => takes_skipValues_object (by omega)
    simp only [chars, List.length_cons, List.length_append]
    omega

theorem reaches_items {limits : Limits} : ∀ (items : List Json) {stack : List Container} {n : Nat}
    {rest last : Input}, (itemChars items).length < limits.items →
      Reaches n (afterValue limits · stack) rest last →
      Reaches (n + (itemChars items).length) (afterValue limits · (.list :: stack))
        (symbols (itemChars items) ++ rest) last
  | [], _, _, _, _, _, h => fun fuel hf => takes_afterValue_list (h fuel (by omega))
  | v :: items, _, n, rest, _, hl, h => by
    intro fuel hf
    simp only [itemChars, List.length_cons, List.length_append] at hl hf
    have hitems := reaches_items items (by omega) h
    have hv := reaches_skipValues v (by omega) (endsNumber_itemChars items rest) hitems fuel
      (by omega)
    have hsplit : symbols (itemChars (v :: items)) ++ rest =
        .char ',' :: (symbols v.chars ++ (symbols (itemChars items) ++ rest)) := by
      simp [symbols, itemChars]
    rw [hsplit]
    exact takes_afterValue_comma .list hv

theorem reaches_fields {limits : Limits} : ∀ (fields : List (String × Json))
    {stack : List Container} {n : Nat} {rest last : Input},
      (fieldChars fields).length < limits.items →
      Reaches n (afterValue limits · stack) rest last →
      Reaches (n + (fieldChars fields).length) (afterValue limits · (.object :: stack))
        (symbols (fieldChars fields) ++ rest) last
  | [], _, _, _, _, _, h => fun fuel hf => takes_afterValue_object (h fuel (by omega))
  | (k, v) :: fields, _, n, rest, _, hl, h => by
    intro fuel hf
    have hk := length_stringChars k
    simp only [fieldChars, List.length_cons, List.length_append] at hl hf
    have hfields := reaches_fields fields (by omega) h
    have hv := reaches_skipValues v (by omega) (endsNumber_fieldChars fields rest) hfields fuel
      (by omega)
    have hsplit : symbols (fieldChars ((k, v) :: fields)) ++ rest =
        .char ',' :: (symbols (stringChars k) ++
          .char ':' :: (symbols v.chars ++ (symbols (fieldChars fields) ++ rest))) := by
      simp [symbols, fieldChars]
    rw [hsplit]
    exact takes_afterValue_comma .object ((takes_skipKey _ (by omega)).bind hv)

end

/-- A value is passed over, and what stands behind it is left. -/
theorem takes_skipValue {limits : Limits} {v : Json} {rest : Input}
    (hl : v.chars.length < limits.items) (hr : EndsNumber rest) :
    Takes (skipValue limits) (symbols v.chars ++ rest) () rest :=
  reaches_skipValues v hl hr (fun fuel _ => takes_afterValue_nil limits fuel rest) limits.items
    (Nat.le_of_lt (by rwa [Nat.zero_add]))

end ApiSuite.Json.Reader
