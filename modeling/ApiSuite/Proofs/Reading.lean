import ApiSuite.Json.Reader

/-! # What readers take

A reader takes a result off the front of an input and leaves the rest. Takings compose along the
steps of a reader, so what it does on a longer input is put together from what its parts do. The
rest of the input is arbitrary, except that nothing may follow a number that could belong to it.
-/
namespace ApiSuite.Json

namespace Reader
open Text

variable {α β : Type}

/-- The reader takes a result off the front of the input and leaves the rest. -/
def Takes (x : Reader α) (input : Input) (a : α) (rest : Input) : Prop :=
  x input = .ok (a, rest)

theorem Takes.bind {x : Reader α} {f : α → Reader β} {input middle rest : Input} {a : α} {b : β}
    (hx : Takes x input a middle) (hf : Takes (f a) middle b rest) :
    Takes (x >>= f) input b rest := by
  change (x input).bind (fun p => f p.1 p.2) = _
  rw [hx]
  exact hf

theorem takes_pure (a : α) (input : Input) : Takes (pure a) input a input := rfl

theorem takes_get (input : Input) : Takes get input input input := rfl

theorem takes_set (input rest : Input) : Takes (set rest) input () rest := rfl

theorem takes_peek (input : Input) : Takes peek input input.head? input := rfl

theorem bind_peek (f : Option Symbol → Reader α) (input : Input) :
    (peek >>= f) input = f input.head? input := rfl

theorem bind_get (f : Input → Reader α) (input : Input) : (get >>= f) input = f input input := rfl

theorem takes_advance (s : Symbol) (rest : Input) : Takes advance (s :: rest) () rest := rfl

theorem takes_blanks {s : Symbol} (rest : Input) (h : isBlank s = false) :
    Takes blanks (s :: rest) () (s :: rest) := by
  have hdrop : (s :: rest).dropWhile isBlank = s :: rest := List.dropWhile_cons_of_neg (by simp [h])
  change Except.ok ((), (s :: rest).dropWhile isBlank) = _
  rw [hdrop]

theorem takes_peekValue {s : Symbol} (rest : Input) (h : isBlank s = false) :
    Takes peekValue (s :: rest) s (s :: rest) :=
  (takes_blanks rest h).bind ((takes_peek _).bind (takes_pure s _))

theorem takes_word (cs : List Char) (rest : Input) :
    Takes (word cs) (symbols cs ++ rest) () rest := by
  induction cs with
  | nil => exact takes_pure () rest
  | cons c more ih =>
    refine (takes_peek _).bind ?_
    have hword : Takes (do advance; word more) (symbols (c :: more) ++ rest) () rest :=
      (takes_advance _ _).bind ih
    change Takes (if Symbol.char c = .char c then (do advance; word more) else _) _ _ _
    rw [if_pos rfl]
    exact hword

/-! ## Numbers -/

/-- Behind a number stands nothing that could belong to it. -/
def EndsNumber (rest : Input) : Prop :=
  ∀ c, rest.head? = some (.char c) → isDigit c = false ∧ c ≠ '.' ∧ c ≠ 'e' ∧ c ≠ 'E'

theorem endsNumber_cons {c : Char} (rest : Input)
    (h : isDigit c = false ∧ c ≠ '.' ∧ c ≠ 'e' ∧ c ≠ 'E') : EndsNumber (.char c :: rest) := by
  intro d hd
  cases hd
  exact h

def EndsDigits (rest : Input) : Prop := ∀ c, rest.head? = some (.char c) → isDigit c = false

theorem EndsNumber.endsDigits {rest : Input} (h : EndsNumber rest) : EndsDigits rest :=
  fun c hc => (h c hc).1

theorem endsDigits_cons {c : Char} (rest : Input) (h : isDigit c = false) :
    EndsDigits (.char c :: rest) := by
  intro d hd
  cases hd
  exact h

theorem spanDigits_append {ds : List Char} {rest : Input} (hd : ∀ c ∈ ds, isDigit c = true)
    (hr : EndsDigits rest) : spanDigits (symbols ds ++ rest) = (ds, rest) := by
  induction ds with
  | nil =>
    match rest, hr with
    | [], _ => rfl
    | .stray _ :: _, _ => rfl
    | .char c :: more, hr =>
      have hc : isDigit c = false := hr c rfl
      simp [symbols, spanDigits, hc]
  | cons d ds ih =>
    have hdigit : isDigit d = true := hd d List.mem_cons_self
    have hrest : spanDigits (symbols ds ++ rest) = (ds, rest) :=
      ih fun c hc => hd c (List.mem_cons_of_mem d hc)
    change spanDigits (.char d :: (symbols ds ++ rest)) = _
    simp only [spanDigits, hdigit, hrest, if_true]

theorem takes_digits {ds : List Char} {rest : Input} (hd : ∀ c ∈ ds, isDigit c = true)
    (hr : EndsDigits rest) : Takes digits (symbols ds ++ rest) ds rest := by
  refine (takes_get _).bind ?_
  rw [spanDigits_append hd hr]
  exact (takes_set _ rest).bind (takes_pure ds rest)

theorem le_decimal (n : Nat) (ds : List Char) :
    n ≤ ds.foldl (fun n d => 10 * n + digitValue d) n := by
  induction ds generalizing n with
  | nil => exact Nat.le_refl n
  | cons d ds ih =>
    have hnext := ih (10 * n + digitValue d)
    simp only [List.foldl_cons]
    omega

theorem wholePart_eq {n : Nat} {ds : List Char}
    (h : ds.foldl (fun n d => 10 * n + digitValue d) n ≤ maxSignificand) :
    wholePart n ds = (ds.foldl (fun n d => 10 * n + digitValue d) n, 0) := by
  induction ds generalizing n with
  | nil => rfl
  | cons d ds ih =>
    simp only [List.foldl_cons] at h ⊢
    have hfits : 10 * n + digitValue d ≤ maxSignificand := Nat.le_trans (le_decimal _ ds) h
    rw [wholePart, if_pos hfits, ih h]

theorem takes_integer_nat (n : Nat) (rest : Input) :
    Takes (integer false n 0) rest (.int n) rest := by
  unfold integer
  rw [if_pos ⟨rfl, Bool.false_ne_true⟩]
  exact takes_pure _ _

theorem takes_integer_neg {n : Nat} (hp : 0 < n) (hn : n ≤ Nat.pow 2 63) (rest : Input) :
    Takes (integer true n 0) rest (.int (-n)) rest := by
  unfold integer
  rw [if_neg (by simp), if_pos ⟨rfl, hp, hn⟩]
  exact takes_pure _ _

/-- Without a point or an exponent behind it a number is an integer. -/
theorem afterWhole_eq {negative : Bool} {n : Nat} {rest : Input} (hr : EndsNumber rest) :
    afterWhole negative n 0 rest = integer negative n 0 rest := by
  rw [afterWhole, bind_peek]
  refine congrFun ?_ rest
  split
  · rename_i hpoint
    exact absurd rfl (hr _ hpoint).2.1
  · rename_i hlower
    exact absurd rfl (hr _ hlower).2.2.1
  · rename_i hupper
    exact absurd rfl (hr _ hupper).2.2.2
  · rfl

theorem digit_cases {c : Char} (h : isDigit c = true) :
    c = '0' ∨ c = '1' ∨ c = '2' ∨ c = '3' ∨ c = '4' ∨ c = '5' ∨ c = '6' ∨ c = '7' ∨ c = '8' ∨
      c = '9' := by
  have hc : c.toNat = 48 ∨ c.toNat = 49 ∨ c.toNat = 50 ∨ c.toNat = 51 ∨ c.toNat = 52 ∨
      c.toNat = 53 ∨ c.toNat = 54 ∨ c.toNat = 55 ∨ c.toNat = 56 ∨ c.toNat = 57 := by
    simp only [isDigit, Bool.and_eq_true, decide_eq_true_eq, Char.le_def,
      UInt32.le_iff_toNat_le] at h
    change 48 ≤ c.toNat ∧ c.toNat ≤ 57 at h
    omega
  have hof := Char.ofNat_toNat c
  rcases hc with hc | hc | hc | hc | hc | hc | hc | hc | hc | hc <;> rw [hc] at hof <;> simp [← hof]

theorem isDigit_of_mem_toDigits {n : Nat} {c : Char} (h : c ∈ Nat.toDigits 10 n) :
    isDigit c = true :=
  Nat.isDigit_of_mem_toDigits (by decide) (by decide) h

theorem decimal_toDigits (n : Nat) :
    (Nat.toDigits 10 n).foldl (fun n d => 10 * n + digitValue d) 0 = n := by
  have h := Nat.ofDigitChars_ten_toDigits (n := n)
  rw [Nat.ofDigitChars_eq_foldl] at h
  exact h

/-- Only zero is written with a leading zero. -/
theorem head?_toDigits_ne {n : Nat} (h : 0 < n) : (Nat.toDigits 10 n).head? ≠ some '0' := by
  induction n using Nat.strongRecOn with
  | _ n ih =>
    rw [Nat.toDigits_eq_if (by decide)]
    split
    · rename_i hlt
      have hdigit : ∀ d, d < 10 → 0 < d → [Nat.digitChar d].head? ≠ some '0' := by decide
      exact hdigit n hlt h
    · have hq : 0 < n / 10 := by omega
      have hlt : n / 10 < n := by omega
      have hhead := ih (n / 10) hlt hq
      cases hds : Nat.toDigits 10 (n / 10) with
      | nil => exact absurd hds Nat.toDigits_ne_nil
      | cons d ds =>
        rw [hds] at hhead
        exact hhead

theorem number_of_digit {negative : Bool} {d : Char} (rest : Input) (hd : isDigit d = true)
    (hz : d ≠ '0') :
    number negative (.char d :: rest) =
      (digits >>= fun ds => afterWhole negative (wholePart 0 ds).1 (wholePart 0 ds).2)
        (.char d :: rest) := by
  rcases digit_cases hd with rfl | rfl | rfl | rfl | rfl | rfl | rfl | rfl | rfl | rfl
  · exact absurd rfl hz
  all_goals rfl

theorem takes_number {negative : Bool} {n : Nat} {k : Number} {rest : Input} (hr : EndsNumber rest)
    (hn : n ≤ maxSignificand) (hk : Takes (integer negative n 0) rest k rest) :
    Takes (number negative) (symbols (Nat.toDigits 10 n) ++ rest) k rest := by
  have hafter : Takes (afterWhole negative n 0) rest k rest := (afterWhole_eq hr).trans hk
  by_cases hz : n = 0
  · subst hz
    rw [Nat.toDigits_zero]
    refine (takes_get _).bind ((takes_advance _ _).bind ((takes_peek _).bind ?_))
    split
    · rename_i c hc
      rw [if_neg (by simp [(hr c hc).1])]
      exact hafter
    · exact hafter
  · have hdigits : ∀ c ∈ Nat.toDigits 10 n, isDigit c = true := fun c => isDigit_of_mem_toDigits
    have hwhole : wholePart 0 (Nat.toDigits 10 n) = (n, 0) := by
      have hvalue := decimal_toDigits n
      rw [wholePart_eq (by rwa [hvalue]), hvalue]
    have htakes : Takes (digits >>= fun ds =>
        afterWhole negative (wholePart 0 ds).1 (wholePart 0 ds).2)
        (symbols (Nat.toDigits 10 n) ++ rest) k rest := by
      refine (takes_digits hdigits hr.endsDigits).bind ?_
      rw [hwhole]
      exact hafter
    have hhead := head?_toDigits_ne (Nat.pos_of_ne_zero hz)
    cases hds : Nat.toDigits 10 n with
    | nil => exact absurd hds Nat.toDigits_ne_nil
    | cons d ds =>
      rw [hds] at htakes hdigits hhead
      have hd : d ≠ '0' := fun h => hhead (by rw [h]; rfl)
      exact (number_of_digit _ (hdigits d List.mem_cons_self) hd).trans htakes

/-! ## Containers -/

theorem takes_hasElement_end (first : Bool) (rest : Input) :
    Takes (hasElement first) (.char ']' :: rest) false (.char ']' :: rest) :=
  (takes_blanks rest rfl).bind ((takes_peek _).bind (takes_pure false _))

theorem takes_hasElement_first {c : Char} (rest : Input) (hb : isBlank (.char c) = false)
    (hc : c ≠ ']') : Takes (hasElement true) (.char c :: rest) true (.char c :: rest) := by
  refine (takes_blanks rest hb).bind ((takes_peek _).bind ?_)
  dsimp only [List.head?_cons]
  split
  · rename_i h
    cases h
  · rename_i h
    cases h
    exact absurd rfl hc
  · exact takes_pure true _

theorem takes_hasElement_next {c : Char} (rest : Input) (hb : isBlank (.char c) = false)
    (hc : c ≠ ']') :
    Takes (hasElement false) (.char ',' :: .char c :: rest) true (.char c :: rest) := by
  refine (takes_blanks _ rfl).bind ((takes_peek _).bind ((takes_advance _ _).bind
    ((takes_blanks rest hb).bind ((takes_peek _).bind ?_))))
  dsimp only [List.head?_cons]
  split
  · rename_i h
    cases h
  · rename_i h
    cases h
    exact absurd rfl hc
  · exact takes_pure true _

theorem takes_hasField_end (first : Bool) (rest : Input) :
    Takes (hasField first) (.char '\x7d' :: rest) false (.char '\x7d' :: rest) :=
  (takes_blanks rest rfl).bind ((takes_peek _).bind (takes_pure false _))

theorem takes_hasField_first (rest : Input) :
    Takes (hasField true) (.char '"' :: rest) true (.char '"' :: rest) :=
  (takes_blanks rest rfl).bind ((takes_peek _).bind (takes_pure true _))

theorem takes_hasField_next (rest : Input) :
    Takes (hasField false) (.char ',' :: .char '"' :: rest) true (.char '"' :: rest) :=
  (takes_blanks _ rfl).bind ((takes_peek _).bind ((takes_advance _ _).bind
    ((takes_blanks rest rfl).bind ((takes_peek _).bind (takes_pure true _)))))

theorem takes_colon (rest : Input) : Takes colon (.char ':' :: rest) () rest :=
  (takes_blanks rest rfl).bind ((takes_peek _).bind (takes_advance _ rest))

theorem takes_elements_end (item : Reader α) (fuel : Nat) (first : Bool) (rest : Input) :
    Takes (elements item (fuel + 1) first) (.char ']' :: rest) [] (.char ']' :: rest) :=
  (takes_hasElement_end first rest).bind (takes_pure [] _)

theorem takes_elements_cons {item : Reader α} {fuel : Nat} {first : Bool} {v : α} {vs : List α}
    {input start middle rest : Input} (hnext : Takes (hasElement first) input true start)
    (hv : Takes item start v middle) (hvs : Takes (elements item fuel false) middle vs rest) :
    Takes (elements item (fuel + 1) first) input (v :: vs) rest :=
  hnext.bind (hv.bind (hvs.bind (takes_pure (v :: vs) rest)))

theorem takes_members_end (limits : Limits) (item : Reader α) (fuel : Nat) (first : Bool)
    (rest : Input) :
    Takes (members limits item (fuel + 1) first) (.char '\x7d' :: rest) []
      (.char '\x7d' :: rest) :=
  (takes_hasField_end first rest).bind (takes_pure [] _)

theorem takes_members_cons {limits : Limits} {item : Reader α} {fuel : Nat} {first : Bool}
    {k : String} {v : α} {vs : List (String × α)} {input start middle last rest : Input}
    (hnext : Takes (hasField first) input true start)
    (hk : Takes (string limits) start k (.char ':' :: middle)) (hv : Takes item middle v last)
    (hvs : Takes (members limits item fuel false) last vs rest) :
    Takes (members limits item (fuel + 1) first) input ((k, v) :: vs) rest :=
  hnext.bind (hk.bind ((takes_colon middle).bind (hv.bind (hvs.bind
    (takes_pure ((k, v) :: vs) rest)))))

end Reader

variable {α : Type}

theorem readDocument_of_takes {read : Limits → Reader α} {input : Input} {a : α}
    (h : Reader.Takes (read ⟨maxDepth, input.length + 1⟩) input a []) :
    readDocument read input = .ok a := by
  have hwhole : Reader.Takes (do
      let v ← read ⟨maxDepth, input.length + 1⟩
      Reader.blanks
      if (← Reader.peek).isSome then Reader.fail .trailingCharacters 1
      return v) input a [] :=
    h.bind rfl
  unfold readDocument
  dsimp only
  split
  · rename_i v rest hread
    cases hread.symm.trans hwhole
    rfl
  · rename_i f hread
    cases hread.symm.trans hwhole

end ApiSuite.Json
