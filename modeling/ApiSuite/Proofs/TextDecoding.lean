import ApiSuite.Json.Decoder
import ApiSuite.Proofs.SkippedValues
import Mathlib.Data.List.Forall2

/-! # Decoding off a text

A decoder recovers from a value what it takes off the value's text, whatever stands behind it. Each
decoder recovers what its parts recover. A record comes back from the fields that it knows; other
fields may stand between them, and those may hold anything.
-/
namespace ApiSuite.Json

open Text Reader

variable {α β : Type}

namespace Reader

theorem Takes.map {x : Reader α} {input rest : Input} {a : α} (h : Takes x input a rest)
    (f : α → β) : Takes (f <$> x) input (f a) rest := by
  change (x input >>= fun p => pure (f p.1, p.2)) = _
  rw [h]
  rfl

/-! ## Texts of containers -/

def separator (first : Bool) : List Char := if first then [] else [',']

/-- The elements from some place on, and the closing bracket. -/
def itemsText (first : Bool) : List Json → List Char
  | [] => [']']
  | v :: rest => separator first ++ (v.chars ++ itemChars rest)

/-- The fields from some place on, and the closing brace. -/
def fieldsText (first : Bool) : List (String × Json) → List Char
  | [] => ['\x7d']
  | (k, v) :: rest => separator first ++ (stringChars k ++ ':' :: (v.chars ++ fieldChars rest))

theorem chars_arr (items : List Json) : (arr items).chars = '[' :: itemsText true items := by
  cases items <;> rfl

theorem chars_obj (fields : List (String × Json)) :
    (obj fields).chars = '\x7b' :: fieldsText true fields := by
  cases fields <;> rfl

theorem itemsText_cons (first : Bool) (v : Json) (items : List Json) :
    itemsText first (v :: items) = separator first ++ (v.chars ++ itemsText false items) := by
  cases items <;> rfl

theorem fieldsText_cons (first : Bool) (k : String) (v : Json) (fields : List (String × Json)) :
    fieldsText first ((k, v) :: fields) =
      separator first ++ (stringChars k ++ ':' :: (v.chars ++ fieldsText false fields)) := by
  cases fields <;> rfl

theorem symbols_itemsText_cons (first : Bool) (v : Json) (items : List Json) (rest : Input) :
    symbols (itemsText first (v :: items)) ++ rest =
      symbols (separator first) ++ (symbols v.chars ++
        (symbols (itemsText false items) ++ rest)) := by
  simp [itemsText_cons, symbols]

theorem symbols_fieldsText_cons (first : Bool) (k : String) (v : Json)
    (fields : List (String × Json)) (rest : Input) :
    symbols (fieldsText first ((k, v) :: fields)) ++ rest =
      symbols (separator first) ++ (symbols (stringChars k) ++
        .char ':' :: (symbols v.chars ++ (symbols (fieldsText false fields) ++ rest))) := by
  simp [fieldsText_cons, symbols]

theorem endsNumber_itemsText (items : List Json) (rest : Input) :
    EndsNumber (symbols (itemsText false items) ++ rest) := by
  cases items <;> exact endsNumber_cons _ (by decide)

theorem endsNumber_fieldsText (fields : List (String × Json)) (rest : Input) :
    EndsNumber (symbols (fieldsText false fields) ++ rest) := by
  cases fields <;> exact endsNumber_cons _ (by decide)

theorem length_itemsText (first : Bool) (items : List Json) :
    items.length < (itemsText first items).length ∧
      ∀ v ∈ items, v.chars.length < (itemsText first items).length := by
  induction items generalizing first with
  | nil => exact ⟨Nat.zero_lt_one, nofun⟩
  | cons v items ih =>
    obtain ⟨hcount, hlength⟩ := ih false
    have hv := length_chars_pos v
    simp only [itemsText_cons, List.length_cons, List.length_append, List.forall_mem_cons]
    refine ⟨by omega, by omega, fun w hw => ?_⟩
    have hw := hlength w hw
    omega

theorem length_fieldsText (first : Bool) (fields : List (String × Json)) :
    fields.length < (fieldsText first fields).length ∧
      ∀ f ∈ fields, f.1.toList.length < (fieldsText first fields).length ∧
        f.2.chars.length < (fieldsText first fields).length := by
  induction fields generalizing first with
  | nil => exact ⟨Nat.zero_lt_one, nofun⟩
  | cons f fields ih =>
    obtain ⟨k, v⟩ := f
    obtain ⟨hcount, hlength⟩ := ih false
    have hk := length_stringChars k
    simp only [fieldsText_cons, List.length_cons, List.length_append, List.forall_mem_cons]
    refine ⟨by omega, by omega, fun g hg => ?_⟩
    have hg := hlength g hg
    omega

theorem takes_hasElement (first : Bool) (v : Json) (rest : Input) :
    Takes (hasElement first) (symbols (separator first) ++ (symbols v.chars ++ rest)) true
      (symbols v.chars ++ rest) := by
  obtain ⟨c, more, hhead, hb, hclose, -⟩ := chars_eq_cons v
  rw [hhead]
  cases first with
  | false => exact takes_hasElement_next _ hb hclose
  | true => exact takes_hasElement_first _ hb hclose

theorem takes_hasField (first : Bool) (k : String) (rest : Input) :
    Takes (hasField first) (symbols (separator first) ++ (symbols (stringChars k) ++ rest)) true
      (symbols (stringChars k) ++ rest) := by
  cases first with
  | false => exact takes_hasField_next _
  | true => exact takes_hasField_first _

/-- The reader takes the text of the value off the front of any input. -/
def TakesText (x : Reader α) (v : Json) (a : α) : Prop :=
  ∀ rest, EndsNumber rest → Takes x (symbols v.chars ++ rest) a rest

theorem takes_elements {item : Reader α} {items : List Json} {xs : List α}
    (h : List.Forall₂ (TakesText item) items xs) {first : Bool} {fuel : Nat}
    (hf : items.length < fuel) (rest : Input) :
    Takes (elements item fuel first) (symbols (itemsText first items) ++ rest) xs
      (.char ']' :: rest) := by
  induction h generalizing first fuel with
  | nil =>
    obtain ⟨fuel, rfl⟩ := Nat.exists_eq_succ_of_ne_zero (Nat.ne_of_gt hf)
    exact takes_elements_end item fuel first rest
  | @cons v x items xs hv _ ih =>
    obtain ⟨fuel, rfl⟩ := Nat.exists_eq_succ_of_ne_zero (Nat.ne_of_gt (Nat.zero_lt_of_lt hf))
    rw [symbols_itemsText_cons]
    exact takes_elements_cons (takes_hasElement first v _)
      (hv _ (endsNumber_itemsText items rest)) (ih (Nat.lt_of_succ_lt_succ hf))

theorem takes_members {limits : Limits} {item : Reader α} {fields : List (String × Json)}
    {entries : List (String × α)}
    (h : List.Forall₂ (fun f e => f.1 = e.1 ∧ f.1.toList.length < limits.items ∧
      TakesText item f.2 e.2) fields entries) {first : Bool} {fuel : Nat}
    (hf : fields.length < fuel) (rest : Input) :
    Takes (members limits item fuel first) (symbols (fieldsText first fields) ++ rest) entries
      (.char '\x7d' :: rest) := by
  induction h generalizing first fuel with
  | nil =>
    obtain ⟨fuel, rfl⟩ := Nat.exists_eq_succ_of_ne_zero (Nat.ne_of_gt hf)
    exact takes_members_end limits item fuel first rest
  | @cons f e fields entries he _ ih =>
    obtain ⟨fuel, rfl⟩ := Nat.exists_eq_succ_of_ne_zero (Nat.ne_of_gt (Nat.zero_lt_of_lt hf))
    obtain ⟨k, v⟩ := f
    obtain ⟨name, a⟩ := e
    obtain ⟨rfl, hk, hv⟩ := he
    rw [symbols_fieldsText_cons]
    exact takes_members_cons (takes_hasField first k _) (takes_string _ hk)
      (hv _ (endsNumber_fieldsText fields rest)) (ih (Nat.lt_of_succ_lt_succ hf))

/-! ## Opening and closing -/

theorem takes_settle {after : Input → Input} {body : Reader α} {input rest : Input} {a : α}
    (h : Takes body input a rest) : Takes (settle after body) input a rest := by
  unfold Takes settle
  rw [h]

theorem takes_list {depth items : Nat} {body : Limits → Reader α} {input rest : Input} {a : α}
    (h : Takes (body ⟨depth, items⟩) input a (.char ']' :: rest)) :
    Takes (list ⟨depth + 1, items⟩ body) (.char '[' :: input) a rest := by
  have hclose : Takes closeList (.char ']' :: rest) () rest :=
    (takes_blanks rest rfl).bind ((takes_peek _).bind (takes_advance _ rest))
  exact (takes_advance _ input).bind
    (takes_settle (h.bind (hclose.bind (takes_pure a rest))))

theorem takes_object {depth items : Nat} {body : Limits → Reader α} {input rest : Input} {a : α}
    (h : Takes (body ⟨depth, items⟩) input a (.char '\x7d' :: rest)) :
    Takes (object ⟨depth + 1, items⟩ body) (.char '\x7b' :: input) a rest := by
  have hclose : Takes closeObject (.char '\x7d' :: rest) () rest :=
    (takes_blanks rest rfl).bind ((takes_peek _).bind (takes_advance _ rest))
  exact (takes_advance _ input).bind
    (takes_settle (h.bind (hclose.bind (takes_pure a rest))))

end Reader

namespace Decoder

/-- The decoder takes the text of the value as `a`, and opens at most `n` containers in each other
to do so. -/
def Recovers (d : Decoder α) (n : Nat) (v : Json) (a : α) : Prop :=
  ∀ limits : Limits, n ≤ limits.depth → v.chars.length < limits.items →
    TakesText (d.read limits) v a

variable {d : Decoder α} {e : Decoder β} {n m : Nat} {v w : Json} {a : α} {b : β}

theorem Recovers.mono (h : d.Recovers n v a) (hnm : n ≤ m) : d.Recovers m v a :=
  fun limits hm => h limits (Nat.le_trans hnm hm)

theorem Recovers.map (h : d.Recovers n v a) (f : α → β) : (d.map f).Recovers n v (f a) :=
  fun limits hn hl rest hr => (h limits hn hl rest hr).map f

/-- A decoder that opens a container has at least one level of nesting left. -/
theorem recovers_succ (h : ∀ depth rounds, n ≤ depth → v.chars.length < rounds →
    TakesText (d.read ⟨depth + 1, rounds⟩) v a) : d.Recovers (n + 1) v a := by
  rintro ⟨_ | depth, rounds⟩ hn hl
  · exact absurd hn (Nat.not_succ_le_zero n)
  · exact h depth rounds (Nat.le_of_succ_le_succ hn) hl

theorem recovers_string (s : String) : string.Recovers 0 (.str s) s := by
  intro limits _ hl rest _
  have hs := length_stringChars s
  have hlength : (stringChars s).length < limits.items := hl
  exact (takes_peekValue _ rfl).bind (takes_string rest (by omega))

theorem recovers_bool (b : Bool) : bool.Recovers 0 (.bool b) b := by
  intro limits _ _ rest _
  cases b with
  | false => exact (takes_peekValue _ rfl).bind ((takes_word _ rest).bind (takes_pure _ rest))
  | true => exact (takes_peekValue _ rfl).bind ((takes_word _ rest).bind (takes_pure _ rest))

theorem unsigned_read_of_digit (limits : Limits) (limit : Nat) (type : String) {c : Char}
    (input : Input) (hc : isDigit c = true) :
    (unsigned limit type).read limits (.char c :: input) =
      (number false >>= fun n => match boundedNat limit type n with
        | .ok n => pure n
        | .error cause => fail cause) (.char c :: input) := by
  rcases digit_cases hc with rfl | rfl | rfl | rfl | rfl | rfl | rfl | rfl | rfl | rfl
  all_goals rfl

theorem recovers_unsigned {limit k : Nat} (type : String) (hk : k < limit)
    (hlimit : limit ≤ Nat.pow 2 64) : (unsigned limit type).Recovers 0 (.num (.int k)) k := by
  intro limits _ _ rest hr
  have hmax : maxSignificand = Nat.pow 2 64 - 1 := rfl
  have hbounded : boundedNat limit type (.int k) = .ok k := by
    rw [boundedNat, if_pos ⟨Int.natCast_nonneg k, Int.ofNat_lt.2 hk⟩, Int.toNat_natCast]
  have htakes : Takes (number false >>= fun n => match boundedNat limit type n with
        | .ok n => pure n
        | .error cause => fail cause) (symbols (Nat.toDigits 10 k) ++ rest) k rest := by
    refine (takes_number hr (by omega) (takes_integer_nat k rest)).bind ?_
    rw [hbounded]
    exact takes_pure k rest
  have hchars : (Json.num (.int k)).chars = Nat.toDigits 10 k := by
    rw [chars_int, if_neg (by omega), Int.natAbs_natCast]
  obtain ⟨c, more, hdigits⟩ := exists_toDigits_eq_cons k
  have hc : isDigit c = true := isDigit_of_mem_toDigits (hdigits ▸ List.mem_cons_self)
  rw [hchars]
  rw [hdigits] at htakes ⊢
  exact (unsigned_read_of_digit limits limit type _ hc).trans htakes

theorem recovers_uint8 (k : UInt8) : uint8.Recovers 0 (.num (.int k.toNat)) k := by
  have h := (recovers_unsigned "u8" k.toNat_lt (by decide)).map UInt8.ofNat
  rwa [UInt8.ofNat_toNat] at h

theorem recovers_uint16 (k : UInt16) : uint16.Recovers 0 (.num (.int k.toNat)) k := by
  have h := (recovers_unsigned "u16" k.toNat_lt (by decide)).map UInt16.ofNat
  rwa [UInt16.ofNat_toNat] at h

theorem recovers_uint32 (k : UInt32) : uint32.Recovers 0 (.num (.int k.toNat)) k := by
  have h := (recovers_unsigned "u32" k.toNat_lt (by decide)).map UInt32.ofNat
  rwa [UInt32.ofNat_toNat] at h

theorem recovers_uint64 (k : UInt64) : uint64.Recovers 0 (.num (.int k.toNat)) k := by
  have h := (recovers_unsigned "u64" k.toNat_lt (Nat.le_refl _)).map UInt64.ofNat
  rwa [UInt64.ofNat_toNat] at h

theorem recovers_json (hc : v.Canonical) (hi : v.Integral) : json.Recovers v.depth v v :=
  fun _ hn hl _ hr => takes_value v hc hi hn hl hr

theorem recovers_option_none (d : Decoder α) : (option d).Recovers 0 .null none :=
  fun _ _ _ rest _ => (takes_blanks _ rfl).bind ((takes_peek _).bind
    ((takes_word _ rest).bind (takes_pure none rest)))

theorem Recovers.option_some (h : d.Recovers n v a) (hv : v ≠ .null) :
    (option d).Recovers n v (some a) := by
  intro limits hn hl rest hr
  have hsome := (h limits hn hl rest hr).map some
  obtain ⟨c, more, hhead, hb, -, hc⟩ := chars_eq_cons v
  rw [hhead] at hsome ⊢
  refine (takes_blanks _ hb).bind ((takes_peek _).bind ?_)
  split
  · rename_i hnull
    cases hnull
    exact absurd rfl (hc hv)
  · exact hsome

theorem recovers_listOf {items : List Json} {xs : List α}
    (h : List.Forall₂ (d.Recovers n) items xs) : (listOf d).Recovers (n + 1) (.arr items) xs := by
  refine recovers_succ fun depth rounds hn hl rest _ => ?_
  rw [chars_arr] at hl ⊢
  obtain ⟨hcount, hlength⟩ := length_itemsText true items
  have hrounds : (itemsText true items).length < rounds := Nat.lt_of_succ_lt hl
  have hitems : List.Forall₂ (TakesText (d.read ⟨depth, rounds⟩)) items xs :=
    ((List.forall₂_and_left items xs).2 ⟨hlength, h⟩).imp fun v x hv =>
      hv.2 ⟨depth, rounds⟩ hn (Nat.lt_trans hv.1 hrounds)
  exact (takes_peekValue _ rfl).bind
    (takes_list (takes_elements hitems (Nat.lt_trans hcount hrounds) rest))

theorem Recovers.pair (hv : d.Recovers n v a) (hw : e.Recovers n w b) :
    (pair d e).Recovers (n + 1) (.arr [v, w]) (a, b) := by
  refine recovers_succ fun depth rounds hn hl rest _ => ?_
  simp only [chars, itemChars, List.length_cons, List.length_append] at hl
  have hv : TakesText (d.read ⟨depth, rounds⟩) v a :=
    hv ⟨depth, rounds⟩ hn (Nat.lt_of_le_of_lt (by omega) hl)
  have hw : TakesText (e.read ⟨depth, rounds⟩) w b :=
    hw ⟨depth, rounds⟩ hn (Nat.lt_of_le_of_lt (by omega) hl)
  have hsplit : symbols (arr [v, w]).chars ++ rest =
      .char '[' :: (symbols (separator true) ++ (symbols v.chars ++
        (symbols (separator false) ++ (symbols w.chars ++ .char ']' :: rest)))) := by
    simp [symbols, chars, itemChars, separator]
  rw [hsplit]
  refine (takes_peekValue _ rfl).bind (takes_list ?_)
  exact (takes_hasElement true v _).bind ((hv _ (endsNumber_cons _ (by decide))).bind
    ((takes_hasElement false w _).bind ((hw _ (endsNumber_cons _ (by decide))).bind
      (takes_pure (a, b) _))))

theorem recovers_mapOf {fields : List (String × Json)} {entries : List (String × α)}
    (h : List.Forall₂ (fun f e => f.1 = e.1 ∧ d.Recovers n f.2 e.2) fields entries) :
    (mapOf d).Recovers (n + 1) (.obj fields) (.ofList entries) := by
  refine recovers_succ fun depth rounds hn hl rest _ => ?_
  rw [chars_obj] at hl ⊢
  obtain ⟨hcount, hlength⟩ := length_fieldsText true fields
  have hrounds : (fieldsText true fields).length < rounds := Nat.lt_of_succ_lt hl
  have hfields : List.Forall₂ (fun f e => f.1 = e.1 ∧ f.1.toList.length < rounds ∧
      TakesText (d.read ⟨depth, rounds⟩) f.2 e.2) fields entries := by
    refine ((List.forall₂_and_left fields entries).2 ⟨hlength, h⟩).imp fun f e hf => ?_
    obtain ⟨⟨hk, hv⟩, hname, hvalue⟩ := hf
    exact ⟨hname, Nat.lt_trans hk hrounds, hvalue ⟨depth, rounds⟩ hn
      (Nat.lt_trans hv hrounds)⟩
  have hmembers : Takes (members ⟨depth, rounds⟩ (d.read ⟨depth, rounds⟩) rounds true)
      (symbols (fieldsText true fields) ++ rest) entries (.char '\x7d' :: rest) :=
    takes_members hfields (Nat.lt_trans hcount hrounds) rest
  exact (takes_peekValue _ rfl).bind (takes_object (hmembers.map SortedMap.ofList))

/-! ## Choices -/

variable {variants : List (Variant α)} {name : String} {variant : Variant α} {x : α}

theorem recovers_choice_alone (hpick : pickVariant variants name = .ok variant)
    (halone : variant.alone = some x) : (choice variants).Recovers 0 (.str name) x := by
  intro limits _ hl rest _
  have hname := length_stringChars name
  have hlength : (stringChars name).length < limits.items := hl
  refine (takes_peekValue _ rfl).bind ((takes_string rest (by omega)).bind ?_)
  rw [hpick]
  dsimp only
  rw [halone]
  exact takes_pure x rest

theorem Recovers.choice_payload (hpick : pickVariant variants name = .ok variant)
    (h : variant.payload.Recovers n v x) :
    (choice variants).Recovers (n + 1) (.obj [(name, v)]) x := by
  refine recovers_succ fun depth rounds hn hl rest _ => ?_
  have hlength := length_stringChars name
  simp only [chars, fieldChars, List.length_cons, List.length_append] at hl
  have hname : name.toList.length < rounds := by omega
  have hv : TakesText (variant.payload.read ⟨depth, rounds⟩) v x :=
    h ⟨depth, rounds⟩ hn (Nat.lt_of_le_of_lt (by omega) hl)
  have hsplit : symbols (obj [(name, v)]).chars ++ rest =
      .char '\x7b' :: (symbols (stringChars name) ++
        .char ':' :: (symbols v.chars ++ .char '\x7d' :: rest)) := by
    simp [symbols, chars, fieldChars]
  rw [hsplit]
  refine (takes_peekValue _ rfl).bind ((takes_advance _ _).bind ((takes_peekValue _ rfl).bind
    ((takes_string _ hname).bind ?_)))
  rw [hpick]
  exact (takes_pure variant _).bind ((takes_colon _).bind
    ((hv _ (endsNumber_cons _ (by decide))).bind ((takes_blanks _ rfl).bind ((takes_peek _).bind
      ((takes_advance _ _).bind (takes_pure x rest))))))

end Decoder

/-! ## Records -/

namespace Record

variable {r : Record α} {n : Nat}

/-- Read one after another, the fields make a value of the record. A field that the record knows
opens at most `n` containers; of another one only the name matters. -/
inductive Runs (r : Record α) (n : Nat) :
    List String → α → List (String × Json) → α → Prop
  | finish {seen : List String} {x y : α} (h : r.finish seen x = .ok y) : Runs r n seen x [] y
  | known {seen : List String} {x y : α} {name : String} {v : Json} {f : Field α} {c : α → α}
      {fields : List (String × Json)} (hf : r.fields.find? (fun f => f.name == name) = some f)
      (hseen : seen.contains name = false) (hv : f.change.Recovers n v c)
      (h : Runs r n (name :: seen) (c x) fields y) : Runs r n seen x ((name, v) :: fields) y
  | other {seen : List String} {x y : α} {name : String} {v : Json} {fields : List (String × Json)}
      (hstrict : r.strict = false) (hname : ∀ f ∈ r.fields, f.name ≠ name)
      (h : Runs r n seen x fields y) : Runs r n seen x ((name, v) :: fields) y

theorem finish_eq_ok {seen : List String} {x : α} (hmissing : r.missing? seen = none)
    (hcheck : r.check x = none) : r.finish seen x = .ok x := by
  rw [finish, hmissing, hcheck]

/-- The loop over the fields of an object makes of them what they make one after another. -/
theorem takes_readFields {limits : Limits} {seen : List String} {x y : α}
    {fields : List (String × Json)} (h : r.Runs n seen x fields y) (hn : n ≤ limits.depth)
    {first : Bool} {fuel : Nat} (hl : (fieldsText first fields).length < limits.items)
    (hf : fields.length < fuel) (rest : Input) :
    Takes (r.readFields limits fuel first seen x) (symbols (fieldsText first fields) ++ rest) y
      (.char '\x7d' :: rest) := by
  induction h generalizing first fuel with
  | finish h =>
    obtain ⟨fuel, rfl⟩ := Nat.exists_eq_succ_of_ne_zero (Nat.ne_of_gt hf)
    refine (takes_hasField_end first rest).bind ?_
    rw [h]
    exact takes_pure _ _
  | @known seen x y name v f c fields hfind hseen hv _ ih =>
    obtain ⟨fuel, rfl⟩ := Nat.exists_eq_succ_of_ne_zero (Nat.ne_of_gt (Nat.zero_lt_of_lt hf))
    have hk := length_stringChars name
    simp only [fieldsText_cons, List.length_cons, List.length_append] at hl
    rw [symbols_fieldsText_cons]
    refine (takes_hasField first name _).bind ((takes_string _ (by omega)).bind ?_)
    rw [hfind]
    dsimp only
    rw [hseen]
    exact (takes_colon _).bind ((hv limits hn (by omega) _
      (endsNumber_fieldsText fields rest)).bind (ih (by omega) (Nat.lt_of_succ_lt_succ hf)))
  | @other seen x y name v fields hstrict hname _ ih =>
    obtain ⟨fuel, rfl⟩ := Nat.exists_eq_succ_of_ne_zero (Nat.ne_of_gt (Nat.zero_lt_of_lt hf))
    have hk := length_stringChars name
    have hfind : r.fields.find? (fun f => f.name == name) = none := by
      simpa using hname
    simp only [fieldsText_cons, List.length_cons, List.length_append] at hl
    rw [symbols_fieldsText_cons]
    refine (takes_hasField first name _).bind ((takes_string _ (by omega)).bind ?_)
    rw [hfind]
    dsimp only
    rw [hstrict]
    exact (takes_colon _).bind ((takes_skipValue (by omega)
      (endsNumber_fieldsText fields rest)).bind (ih (by omega) (Nat.lt_of_succ_lt_succ hf)))

theorem Runs.recovers {fields : List (String × Json)} {y : α} (h : r.Runs n [] r.blank fields y) :
    (Decoder.record r).Recovers (n + 1) (.obj fields) y := by
  refine Decoder.recovers_succ fun depth rounds hn hl rest _ => ?_
  rw [chars_obj] at hl ⊢
  have hcount := (length_fieldsText true fields).1
  have hrounds : (fieldsText true fields).length < rounds := Nat.lt_of_succ_lt hl
  exact (takes_peekValue _ rfl).bind (takes_object
    (takes_readFields h hn hrounds (Nat.lt_trans hcount hrounds) rest))

/-- Fields under names that the record does not have stand anywhere between its own. -/
inductive Extends (r : Record α) : List (String × Json) → List (String × Json) → Prop
  | nil : Extends r [] []
  | own {own fields : List (String × Json)} (f : String × Json) (h : Extends r own fields) :
      Extends r (f :: own) (f :: fields)
  | other {own fields : List (String × Json)} {name : String} (v : Json)
      (hname : ∀ f ∈ r.fields, f.name ≠ name) (h : Extends r own fields) :
      Extends r own ((name, v) :: fields)

/-- Other fields change nothing about what is read. -/
theorem Runs.extends (hstrict : r.strict = false) {seen : List String} {x y : α}
    {own fields : List (String × Json)} (he : r.Extends own fields)
    (h : r.Runs n seen x own y) : r.Runs n seen x fields y := by
  induction he generalizing seen x with
  | nil => exact h
  | own f _ ih =>
    cases h with
    | known hf hseen hv h => exact .known hf hseen hv (ih h)
    | other hstrict hname h => exact .other hstrict hname (ih h)
  | other v hname _ ih => exact .other hstrict hname (ih h)

end Record

theorem Decoder.Recovers.parse_render {d : Decoder α} {n : Nat} {v : Json} {a : α}
    (h : d.Recovers n v a) (hn : n ≤ maxDepth) : d.parse v.render = .ok a := by
  have htakes : Takes (d.read ⟨maxDepth, (symbols v.chars).length + 1⟩) (symbols v.chars ++ []) a
      [] := by
    refine h ⟨maxDepth, (symbols v.chars).length + 1⟩ hn ?_ [] nofun
    simp [symbols]
  rw [List.append_nil] at htakes
  rw [Decoder.parse, render, String.toList_ofList]
  exact readDocument_of_takes htakes

end ApiSuite.Json
