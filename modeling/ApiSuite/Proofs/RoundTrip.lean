import ApiSuite.Proofs.Numerals
import Mathlib.Tactic.SplitIfs

/-! # Written values read back

The compact text of a value spells the value. Strings may hold any characters, since each of them is
read back from the one way in which it is written. Objects have to be in order, as reading puts them
in order; numbers have to be integers of 64 bits, and the nesting may not exceed what a reader
allows.
-/
namespace ApiSuite.Json
open Text Reader

namespace Reader

/-! ## Strings -/

theorem mapM_toChar?_symbols (cs : List Char) : (symbols cs).mapM Symbol.toChar? = some cs := by
  induction cs with
  | nil => rfl
  | cons c cs ih =>
    change ((Symbol.char c) :: symbols cs).mapM Symbol.toChar? = _
    rw [List.mapM_cons, ih]
    rfl

theorem takes_stringTail_end (start rest : Input) (fuel : Nat) (cs : List Char) :
    Takes (stringTail start (fuel + 1) (symbols cs)) (.char '"' :: rest) (.ofList cs.reverse)
      rest := by
  have hspelled : spelled start rest (symbols cs).reverse = .ok (String.ofList cs.reverse) := by
    have hreverse : (symbols cs).reverse = symbols cs.reverse := List.map_reverse.symm
    unfold spelled
    rw [hreverse, mapM_toChar?_symbols]
  refine (takes_get _).bind ((takes_set _ rest).bind ?_)
  change Takes (liftM (spelled start rest (symbols cs).reverse)) _ _ _
  rw [hspelled]
  rfl

theorem stringTail_plain (start input : Input) (fuel : Nat) (seen : List Symbol) {c : Char}
    (hquote : c ≠ '"') (hslash : c ≠ '\\') (hcontrol : ¬c.toNat < 0x20) :
    stringTail start (fuel + 1) seen (.char c :: input) =
      stringTail start fuel (.char c :: seen) input := by
  let after : Reader String := do
    set input
    stringTail start fuel (.char c :: seen)
  rw [stringTail, bind_get]
  refine congrFun (g := after) ?_ (.char c :: input)
  split
  · rename_i hnil
    cases hnil
  · rename_i hcons
    cases hcons
    exact absurd rfl hquote
  · rename_i hcons
    cases hcons
    exact absurd rfl hslash
  · rename_i hcons
    cases hcons
    rw [if_neg hcontrol]
  · rename_i hcons
    cases hcons

theorem stringTail_escaped (start : Input) (fuel : Nat) (seen : List Symbol) {input after : Input}
    {c : Char} (h : Takes escape input c after) :
    stringTail start (fuel + 1) seen (.char '\\' :: input) =
      stringTail start fuel (.char c :: seen) after := by
  change (escape input).bind (fun p => stringTail start fuel (.char p.1 :: seen) p.2) = _
  rw [h]
  rfl

theorem hexValue?_hexDigit : ∀ d, d < 16 → hexValue? (.char (hexDigit d)) = some d := by decide

theorem takes_hexEscape {w x y z : Symbol} {a b c d : Nat} (hw : hexValue? w = some a)
    (hx : hexValue? x = some b) (hy : hexValue? y = some c) (hz : hexValue? z = some d)
    (rest : Input) :
    Takes hexEscape (w :: x :: y :: z :: rest) (((a * 16 + b) * 16 + c) * 16 + d) rest := by
  refine (takes_get _).bind ?_
  simp only [List.getElem?_cons_zero, List.getElem?_cons_succ, Option.bind_eq_bind,
    Option.bind_some, hw, hx, hy, hz]
  exact (takes_set _ rest).bind (takes_pure _ rest)

theorem takes_unicodeEscape {c : Char} (h : c.toNat < 0x20) (rest : Input) :
    Takes unicodeEscape
      (symbols ['0', '0', hexDigit (c.toNat / 16), hexDigit (c.toNat % 16)] ++ rest) c rest := by
  have hzero : hexValue? (.char '0') = some 0 := rfl
  have hhigh := hexValue?_hexDigit (c.toNat / 16) (by omega)
  have hlow := hexValue?_hexDigit (c.toNat % 16) (by omega)
  refine (takes_hexEscape hzero hzero hhigh hlow rest).bind ?_
  have hvalue : ((0 * 16 + 0) * 16 + c.toNat / 16) * 16 + c.toNat % 16 = c.toNat := by omega
  rw [hvalue, if_neg (by omega), if_pos (by omega), Char.ofNat_toNat]
  exact takes_pure _ _

/-- One round of the loop takes a character however it is written. -/
theorem stringTail_char (start input : Input) (fuel : Nat) (seen : List Symbol) (c : Char) :
    stringTail start (fuel + 1) seen (symbols (escaped c) ++ input) =
      stringTail start fuel (.char c :: seen) input := by
  by_cases hshort : c = '"' ∨ c = '\\' ∨ c = '\x08' ∨ c = '\t' ∨ c = '\n' ∨ c = '\x0c' ∨ c = '\r'
  · rcases hshort with rfl | rfl | rfl | rfl | rfl | rfl | rfl
    all_goals rfl
  · simp only [not_or] at hshort
    obtain ⟨hquote, hslash, hb, ht, hn, hf, hr⟩ := hshort
    unfold escaped
    rw [if_neg hquote, if_neg hslash, if_neg hb, if_neg ht, if_neg hn, if_neg hf, if_neg hr]
    split
    · rename_i hcontrol
      have hescape : Takes escape (.char 'u' ::
          (symbols ['0', '0', hexDigit (c.toNat / 16), hexDigit (c.toNat % 16)] ++ input))
          c input := takes_unicodeEscape hcontrol input
      exact stringTail_escaped start fuel seen hescape
    · rename_i hcontrol
      exact stringTail_plain start input fuel seen hquote hslash hcontrol

theorem takes_stringTail (start rest : Input) {fuel : Nat} {cs : List Char} (seen : List Char)
    (h : cs.length < fuel) :
    Takes (stringTail start fuel (symbols seen))
      (symbols (cs.flatMap escaped) ++ .char '"' :: rest) (.ofList (seen.reverse ++ cs)) rest := by
  induction cs generalizing fuel seen with
  | nil =>
    obtain ⟨fuel, rfl⟩ := Nat.exists_eq_succ_of_ne_zero (Nat.ne_of_gt h)
    rw [List.append_nil]
    exact takes_stringTail_end start rest fuel seen
  | cons c cs ih =>
    obtain ⟨fuel, rfl⟩ := Nat.exists_eq_succ_of_ne_zero (Nat.ne_of_gt (Nat.zero_lt_of_lt h))
    -- A round is spent on a character of the string, not on each character of its escape.
    have hmore := ih (c :: seen) (Nat.lt_of_succ_lt_succ h)
    rw [List.reverse_cons, List.append_assoc, List.singleton_append] at hmore
    have hsplit : symbols ((c :: cs).flatMap escaped) ++ .char '"' :: rest =
        symbols (escaped c) ++ (symbols (cs.flatMap escaped) ++ .char '"' :: rest) := by
      simp [symbols]
    rw [hsplit]
    exact (stringTail_char start _ fuel (symbols seen) c).trans hmore

theorem symbols_stringChars (s : String) (rest : Input) :
    symbols (stringChars s) ++ rest =
      .char '"' :: (symbols (s.toList.flatMap escaped) ++ .char '"' :: rest) := by
  simp [stringChars, symbols]

theorem takes_string {limits : Limits} {s : String} (rest : Input)
    (h : s.toList.length < limits.items) :
    Takes (string limits) (symbols (stringChars s) ++ rest) s rest := by
  have htail := takes_stringTail (symbols (s.toList.flatMap escaped) ++ .char '"' :: rest) rest [] h
  rw [List.reverse_nil, List.nil_append, String.ofList_toList] at htail
  rw [symbols_stringChars]
  exact (takes_advance _ _).bind ((takes_get _).bind htail)

/-! ## Values -/

variable (limits : Limits) (inner : Option (Reader Json))

theorem takes_null (rest : Input) :
    Takes (valueWith limits inner) (symbols Json.null.chars ++ rest) .null rest :=
  (takes_peekValue _ rfl).bind ((takes_word _ rest).bind (takes_pure _ rest))

theorem takes_bool (b : Bool) (rest : Input) :
    Takes (valueWith limits inner) (symbols (Json.bool b).chars ++ rest) (.bool b) rest := by
  cases b with
  | false => exact (takes_peekValue _ rfl).bind ((takes_word _ rest).bind (takes_pure _ rest))
  | true => exact (takes_peekValue _ rfl).bind ((takes_word _ rest).bind (takes_pure _ rest))

theorem takes_str {s : String} (rest : Input) (h : s.toList.length < limits.items) :
    Takes (valueWith limits inner) (symbols (Json.str s).chars ++ rest) (.str s) rest :=
  (takes_peekValue _ rfl).bind ((takes_string rest h).bind (takes_pure _ rest))

theorem valueWith_of_digit {d : Char} (rest : Input) (hd : isDigit d = true) :
    valueWith limits inner (.char d :: rest) =
      (number false >>= fun n => pure (.num n)) (.char d :: rest) := by
  rcases digit_cases hd with rfl | rfl | rfl | rfl | rfl | rfl | rfl | rfl | rfl | rfl
  all_goals rfl

theorem chars_int (n : Int) :
    (Json.num (.int n)).chars =
      if n < 0 then '-' :: Nat.toDigits 10 n.natAbs else Nat.toDigits 10 n.natAbs := by
  change Number.chars (.int n) = _
  rw [Number.chars, Nat.repr_eq_ofList_toDigits, String.toList_ofList]

theorem takes_int {n : Int} {rest : Input} (hlow : -(Nat.pow 2 63 : Nat) ≤ n)
    (hhigh : n < (Nat.pow 2 64 : Nat)) (hr : EndsNumber rest) :
    Takes (valueWith limits inner) (symbols (Json.num (.int n)).chars ++ rest) (.num (.int n))
      rest := by
  have hmax : maxSignificand = 18446744073709551615 := rfl
  rw [chars_int]
  split
  · rename_i hneg
    have hfits : n.natAbs ≤ Nat.pow 2 63 := by omega
    have hsmall : n.natAbs ≤ maxSignificand := by
      have hpow : Nat.pow 2 63 = 9223372036854775808 := rfl
      omega
    have hn : Takes (integer true n.natAbs 0) rest (.int n) rest := by
      have hvalue : -(n.natAbs : Int) = n := by omega
      have hinteger := takes_integer_neg (by omega : 0 < n.natAbs) hfits rest
      rwa [hvalue] at hinteger
    exact (takes_peekValue _ rfl).bind ((takes_advance _ _).bind
      ((takes_number hr hsmall hn).bind (takes_pure _ rest)))
  · rename_i hpos
    have hsmall : n.natAbs ≤ maxSignificand := by
      have hpow : Nat.pow 2 64 = 18446744073709551616 := rfl
      omega
    have hn : Takes (integer false n.natAbs 0) rest (.int n) rest := by
      have hvalue : (n.natAbs : Int) = n := by omega
      have hinteger := takes_integer_nat n.natAbs rest
      rwa [hvalue] at hinteger
    have htakes : Takes (number false >>= fun k => pure (Json.num k))
        (symbols (Nat.toDigits 10 n.natAbs) ++ rest) (.num (.int n)) rest :=
      (takes_number hr hsmall hn).bind (takes_pure _ rest)
    cases hds : Nat.toDigits 10 n.natAbs with
    | nil => exact absurd hds Nat.toDigits_ne_nil
    | cons d ds =>
      have hd : isDigit d = true := isDigit_of_mem_toDigits (hds ▸ List.mem_cons_self)
      rw [hds] at htakes
      exact (valueWith_of_digit limits inner _ hd).trans htakes

end Reader

/-- The integers that 64 bits hold, with a sign or without. -/
def Number.Exact : Number → Prop
  | .int n => -(Nat.pow 2 63 : Nat) ≤ n ∧ n < (Nat.pow 2 64 : Nat)
  | .real _ => False

mutual

def Integral : Json → Prop
  | num n => n.Exact
  | arr items => IntegralItems items
  | obj fields => IntegralFields fields
  | _ => True

def IntegralItems : List Json → Prop
  | [] => True
  | v :: rest => v.Integral ∧ IntegralItems rest

def IntegralFields : List (String × Json) → Prop
  | [] => True
  | (_, v) :: rest => v.Integral ∧ IntegralFields rest

end

/-- A value starts with a character that is no blank and closes no array. Only null starts as null
does. -/
theorem chars_eq_cons (v : Json) :
    ∃ c more, v.chars = c :: more ∧ isBlank (.char c) = false ∧ c ≠ ']' ∧
      (v ≠ .null → c ≠ 'n') := by
  match v with
  | .null => exact ⟨_, _, rfl, rfl, by decide, fun h => absurd rfl h⟩
  | .bool true => exact ⟨_, _, rfl, rfl, by decide, fun _ => by decide⟩
  | .bool false => exact ⟨_, _, rfl, rfl, by decide, fun _ => by decide⟩
  | .num n =>
    obtain ⟨cs, hcs, hn | hn⟩ := n.exists_numeral
    · obtain ⟨d, more, rfl, hd⟩ := hcs.exists_cons
      refine ⟨d, more, hn, ?_⟩
      rcases digit_cases hd with rfl | rfl | rfl | rfl | rfl | rfl | rfl | rfl | rfl | rfl
      all_goals exact ⟨by decide, by decide, fun _ => by decide⟩
    · exact ⟨_, _, hn, rfl, by decide, fun _ => by decide⟩
  | .str s => exact ⟨_, _, rfl, rfl, by decide, fun _ => by decide⟩
  | .arr [] => exact ⟨_, _, rfl, rfl, by decide, fun _ => by decide⟩
  | .arr (_ :: _) => exact ⟨_, _, rfl, rfl, by decide, fun _ => by decide⟩
  | .obj [] => exact ⟨_, _, rfl, rfl, by decide, fun _ => by decide⟩
  | .obj (_ :: _) => exact ⟨_, _, rfl, rfl, by decide, fun _ => by decide⟩

theorem endsNumber_itemChars (items : List Json) (rest : Input) :
    EndsNumber (symbols (itemChars items) ++ rest) := by
  cases items <;> exact endsNumber_cons _ (by decide)

theorem endsNumber_fieldChars (fields : List (String × Json)) (rest : Input) :
    EndsNumber (symbols (fieldChars fields) ++ rest) := by
  cases fields <;> exact endsNumber_cons _ (by decide)

/-- What is no container is read alike at every depth. -/
theorem takes_leaf {limits : Limits} {depth : Nat} {input rest : Input} {v : Json}
    (h : ∀ inner, Takes (valueWith limits inner) input v rest) :
    Takes (value limits depth) input v rest := by
  cases depth with
  | zero => exact h none
  | succ depth => exact h (some (value limits depth))

theorem symbols_append (cs ds : List Char) : symbols (cs ++ ds) = symbols cs ++ symbols ds :=
  List.map_append

theorem length_stringChars (s : String) : s.toList.length + 2 ≤ (stringChars s).length := by
  have hescaped : ∀ c, 1 ≤ (escaped c).length := by
    intro c
    unfold escaped
    split_ifs <;> simp
  have hflat : ∀ cs : List Char, cs.length ≤ (cs.flatMap escaped).length := by
    intro cs
    induction cs with
    | nil => exact Nat.le_refl 0
    | cons c cs ih =>
      have hc := hescaped c
      rw [List.flatMap_cons, List.length_append, List.length_cons]
      omega
  have hs := hflat s.toList
  simp only [stringChars, List.length_cons, List.length_append, List.length_nil]
  omega

theorem takes_arr {limits : Limits} {depth : Nat} {items : List Json} {input rest : Input}
    (h : Takes (elements (value limits depth) limits.items true) input items
      (.char ']' :: rest)) :
    Takes (value limits (depth + 1)) (.char '[' :: input) (.arr items) rest :=
  (takes_peekValue input rfl).bind ((takes_advance _ _).bind (h.bind
    ((takes_advance _ rest).bind (takes_pure (Json.arr items) rest))))

theorem takes_obj {limits : Limits} {depth : Nat} {fields : List (String × Json)}
    {input rest : Input} (hs : Entries.Sorted fields)
    (h : Takes (members limits (value limits depth) limits.items true) input fields
      (.char '\x7d' :: rest)) :
    Takes (value limits (depth + 1)) (.char '\x7b' :: input) (.obj fields) rest := by
  have hobj : Takes (pure (Json.obj (Entries.ofList fields))) rest (.obj fields) rest := by
    rw [Entries.ofList_of_sorted hs]
    exact takes_pure _ rest
  exact (takes_peekValue input rfl).bind ((takes_advance _ _).bind (h.bind
    ((takes_advance _ rest).bind hobj)))

-- The recursion is on the value. Each element or field takes at least one character of the text, so
-- that the length of the text bounds the rounds of the loops; this is what the fuel is compared with.
mutual

theorem takes_value {limits : Limits} : ∀ (v : Json), v.Canonical → v.Integral →
    ∀ {depth : Nat} {rest : Input}, v.depth ≤ depth → v.chars.length < limits.items →
      EndsNumber rest → Takes (value limits depth) (symbols v.chars ++ rest) v rest
  | .null, _, _, _, rest, _, _, _ => takes_leaf fun inner => takes_null limits inner rest
  | .bool b, _, _, _, rest, _, _, _ => takes_leaf fun inner => takes_bool limits inner b rest
  | .num (.int n), _, hi, _, _, _, _, hr =>
    takes_leaf fun inner => takes_int limits inner hi.1 hi.2 hr
  | .str s, _, _, _, rest, _, hl, _ => by
    have hs := length_stringChars s
    have hlength : (stringChars s).length < limits.items := hl
    exact takes_leaf fun inner => takes_str limits inner rest (by omega)
  | .arr [], _, _, depth + 1, rest, _, hl, _ => by
    obtain ⟨fuel, hfuel⟩ := Nat.exists_eq_add_of_lt hl
    refine takes_arr ?_
    rw [hfuel]
    exact takes_elements_end _ _ true rest
  | .arr (v :: items), ⟨hcv, hci⟩, ⟨hiv, hii⟩, depth + 1, rest, hd, hl, _ => by
    obtain ⟨hdv, hdi⟩ := Nat.max_le.1 (Nat.le_of_succ_le_succ hd)
    simp only [chars, List.length_cons, List.length_append] at hl
    obtain ⟨fuel, hfuel⟩ := Nat.exists_eq_add_of_lt (Nat.zero_lt_of_lt hl)
    obtain ⟨c, more, hhead, hb, hclose, -⟩ := chars_eq_cons v
    have hv : Takes (value limits depth) (symbols v.chars ++ (symbols (itemChars items) ++ rest)) v
        (symbols (itemChars items) ++ rest) :=
      takes_value v hcv hiv hdv (by omega) (endsNumber_itemChars items rest)
    have hitems : Takes (elements (value limits depth) (0 + fuel) false)
        (symbols (itemChars items) ++ rest) items (.char ']' :: rest) :=
      takes_items items hci hii hdi (by omega) (by omega)
    have hnext : Takes (hasElement true) (symbols v.chars ++ (symbols (itemChars items) ++ rest))
        true (symbols v.chars ++ (symbols (itemChars items) ++ rest)) := by
      rw [hhead]
      exact takes_hasElement_first _ hb hclose
    have helements := takes_elements_cons hnext hv hitems
    rw [← hfuel, ← List.append_assoc, ← symbols_append] at helements
    exact takes_arr helements
  | .obj [], _, _, depth + 1, rest, _, hl, _ => by
    obtain ⟨fuel, hfuel⟩ := Nat.exists_eq_add_of_lt hl
    refine takes_obj List.Pairwise.nil ?_
    rw [hfuel]
    exact takes_members_end limits _ _ true rest
  | .obj ((k, v) :: fields), ⟨hs, hcv, hcf⟩, ⟨hiv, hif⟩, depth + 1, rest, hd, hl, _ => by
    obtain ⟨hdv, hdf⟩ := Nat.max_le.1 (Nat.le_of_succ_le_succ hd)
    have hk := length_stringChars k
    simp only [chars, List.length_cons, List.length_append] at hl
    obtain ⟨fuel, hfuel⟩ := Nat.exists_eq_add_of_lt (Nat.zero_lt_of_lt hl)
    have hkey : Takes (string limits) (symbols (stringChars k) ++
        .char ':' :: (symbols v.chars ++ (symbols (fieldChars fields) ++ rest))) k
        (.char ':' :: (symbols v.chars ++ (symbols (fieldChars fields) ++ rest))) :=
      takes_string _ (by omega)
    have hv : Takes (value limits depth) (symbols v.chars ++ (symbols (fieldChars fields) ++ rest))
        v (symbols (fieldChars fields) ++ rest) :=
      takes_value v hcv hiv hdv (by omega) (endsNumber_fieldChars fields rest)
    have hfields : Takes (members limits (value limits depth) (0 + fuel) false)
        (symbols (fieldChars fields) ++ rest) fields (.char '\x7d' :: rest) :=
      takes_fields fields hcf hif hdf (by omega) (by omega)
    have hmembers := takes_members_cons (takes_hasField_first _) hkey hv hfields
    rw [← hfuel] at hmembers
    have hsplit : symbols (obj ((k, v) :: fields)).chars ++ rest =
        .char '\x7b' :: (symbols (stringChars k) ++
          .char ':' :: (symbols v.chars ++ (symbols (fieldChars fields) ++ rest))) := by
      simp [symbols, chars]
    rw [hsplit]
    exact takes_obj hs hmembers

theorem takes_items {limits : Limits} : ∀ (items : List Json), CanonicalItems items →
    IntegralItems items → ∀ {depth fuel : Nat} {rest : Input}, depthItems items ≤ depth →
      (itemChars items).length < limits.items → (itemChars items).length ≤ fuel →
      Takes (elements (value limits depth) fuel false) (symbols (itemChars items) ++ rest) items
        (.char ']' :: rest)
  | [], _, _, _, fuel + 1, rest, _, _, _ => takes_elements_end _ fuel false rest
  | v :: items, ⟨hcv, hci⟩, ⟨hiv, hii⟩, depth, fuel + 1, rest, hd, hl, hf => by
    obtain ⟨hdv, hdi⟩ := Nat.max_le.1 hd
    simp only [itemChars, List.length_cons, List.length_append] at hl hf
    obtain ⟨c, more, hhead, hb, hclose, -⟩ := chars_eq_cons v
    have hv : Takes (value limits depth) (symbols v.chars ++ (symbols (itemChars items) ++ rest)) v
        (symbols (itemChars items) ++ rest) :=
      takes_value v hcv hiv hdv (by omega) (endsNumber_itemChars items rest)
    have hitems : Takes (elements (value limits depth) fuel false)
        (symbols (itemChars items) ++ rest) items (.char ']' :: rest) :=
      takes_items items hci hii hdi (by omega) (by omega)
    have hnext : Takes (hasElement false)
        (.char ',' :: (symbols v.chars ++ (symbols (itemChars items) ++ rest))) true
        (symbols v.chars ++ (symbols (itemChars items) ++ rest)) := by
      rw [hhead]
      exact takes_hasElement_next _ hb hclose
    have helements := takes_elements_cons hnext hv hitems
    rw [← List.append_assoc, ← symbols_append] at helements
    exact helements

theorem takes_fields {limits : Limits} : ∀ (fields : List (String × Json)),
    CanonicalFields fields → IntegralFields fields → ∀ {depth fuel : Nat} {rest : Input},
      depthFields fields ≤ depth → (fieldChars fields).length < limits.items →
      (fieldChars fields).length ≤ fuel →
      Takes (members limits (value limits depth) fuel false)
        (symbols (fieldChars fields) ++ rest) fields (.char '\x7d' :: rest)
  | [], _, _, _, fuel + 1, rest, _, _, _ => takes_members_end limits _ fuel false rest
  | (k, v) :: fields, ⟨hcv, hcf⟩, ⟨hiv, hif⟩, depth, fuel + 1, rest, hd, hl, hf => by
    obtain ⟨hdv, hdf⟩ := Nat.max_le.1 hd
    have hk := length_stringChars k
    simp only [fieldChars, List.length_cons, List.length_append] at hl hf
    have hkey : Takes (string limits) (symbols (stringChars k) ++
        .char ':' :: (symbols v.chars ++ (symbols (fieldChars fields) ++ rest))) k
        (.char ':' :: (symbols v.chars ++ (symbols (fieldChars fields) ++ rest))) :=
      takes_string _ (by omega)
    have hv : Takes (value limits depth) (symbols v.chars ++ (symbols (fieldChars fields) ++ rest))
        v (symbols (fieldChars fields) ++ rest) :=
      takes_value v hcv hiv hdv (by omega) (endsNumber_fieldChars fields rest)
    have hfields : Takes (members limits (value limits depth) fuel false)
        (symbols (fieldChars fields) ++ rest) fields (.char '\x7d' :: rest) :=
      takes_fields fields hcf hif hdf (by omega) (by omega)
    have hmembers := takes_members_cons (takes_hasField_next _) hkey hv hfields
    have hsplit : symbols (fieldChars ((k, v) :: fields)) ++ rest =
        .char ',' :: (symbols (stringChars k) ++
          .char ':' :: (symbols v.chars ++ (symbols (fieldChars fields) ++ rest))) := by
      simp [symbols, fieldChars]
    rw [hsplit]
    exact hmembers

end

theorem parse_render {v : Json} (hc : v.Canonical) (hi : v.Integral) (hd : v.depth ≤ maxDepth) :
    parse v.render = .ok v := by
  let limits : Limits := ⟨maxDepth, (symbols v.chars).length + 1⟩
  have hlength : v.chars.length < limits.items := by simp [limits, symbols]
  have hvalue : Takes (value limits maxDepth) (symbols v.chars ++ []) v [] :=
    takes_value v hc hi hd hlength fun c h => by cases h
  rw [List.append_nil] at hvalue
  unfold parse render
  rw [String.toList_ofList]
  exact readDocument_of_takes hvalue

end ApiSuite.Json
