import ApiSuite.Text.Basic

/-! # Punycode

A label that starts with `xn--` spells its characters beyond ASCII by what is after its last
hyphen: a sequence of variable-length numbers, each of which says how far to move before the next
character is inserted. The numbers are written in base 36, with thresholds that adapt to them.
Characters are inserted in the order of their code points.
-/
namespace ApiSuite.Url.Punycode

def isAscii (c : Char) : Bool := c.toNat < 0x80

def digitValue? (c : Char) : Option Nat :=
  if c.isLower then some (c.toNat - 0x61)
  else if c.isUpper then some (c.toNat - 0x41)
  else if Text.isDigit c then some (c.toNat - 0x30 + 26)
  else none

def threshold (weight bias : Nat) : Nat :=
  if weight ≤ bias then 1 else if bias + 26 ≤ weight then 26 else weight - bias

/-- Scales a distance down below the limit, and counts the scalings. -/
def scaleDown (delta weight : Nat) : Nat × Nat :=
  if 455 < delta then scaleDown (delta / 35) (weight + 36) else (delta, weight)
  termination_by delta
  decreasing_by omega

/-- The bias for the next number, after a distance of `delta` over `count` characters. -/
def adapt (delta count : Nat) (first : Bool) : Nat :=
  let halved := if first then delta / 700 else delta / 2
  let (scaled, weight) := scaleDown (halved + halved / count) 0
  weight + 36 * scaled / (scaled + 38)

/-- Neither a number nor the factor of a digit may reach this. -/
def limit : Nat := Nat.pow 2 32

def number? (bias : Nat) (weight factor total : Nat) : List Char → Option (Nat × List Char)
  | [] => none
  | c :: rest =>
    match digitValue? c with
    | none => none
    | some d =>
      let t := threshold weight bias
      let total := total + d * factor
      if limit ≤ total then none
      else if d < t then some (total, rest)
      else if limit ≤ factor * (36 - t) then none
      else number? bias (weight + 36) (factor * (36 - t)) total rest

theorem length_of_number? {bias weight factor total : Nat} {cs : List Char} {r : Nat × List Char}
    (h : number? bias weight factor total cs = some r) : r.2.length < cs.length := by
  induction cs generalizing weight factor total with
  | nil => simp [number?] at h
  | cons c rest ih =>
    unfold number? at h
    split at h
    · simp at h
    · dsimp only at h
      split at h
      · simp at h
      · split at h
        · obtain rfl := Option.some.inj h
          simp
        · split at h
          · simp at h
          · have := ih h
            simp only [List.length_cons]
            omega

/-- Where the insertion of characters stands: the characters so far, the code point and the
position reached, and the bias. -/
structure Insertion where
  output : List Char
  codePoint : Nat
  position : Nat
  bias : Nat

def Insertion.insert? (s : Insertion) (distance : Nat) : Option Insertion :=
  let count := s.output.length + 1
  let target := s.position + distance
  let codePoint := s.codePoint + target / count
  let position := target % count
  if codePoint < 0xD800 || (0xE000 ≤ codePoint && codePoint < 0x110000) then
    some ⟨s.output.take position ++ Char.ofNat codePoint :: s.output.drop position, codePoint,
      position + 1, adapt distance count (s.position == 0 && s.codePoint == 0x80)⟩
  else none

def insertAll (s : Insertion) (digits : List Char) : Option (List Char) :=
  match digits with
  | [] => some s.output
  | c :: rest =>
    match _h : number? s.bias 36 1 0 (c :: rest) with
    | none => none
    | some (distance, after) =>
      match s.insert? distance with
      | none => none
      | some s => insertAll s after
  termination_by digits.length
  decreasing_by exact length_of_number? _h

/-- The characters that a label spells after its `xn--`. A hyphen at the start ends nothing, and no
number has one. -/
def decode (cs : List Char) : Option (List Char) :=
  let tail := (cs.reverse.takeWhile (· != '-')).reverse
  let basic := cs.take (cs.length - tail.length - 1)
  if basic.isEmpty then insertAll ⟨[], 0x80, 0, 72⟩ cs
  else if basic.all isAscii then insertAll ⟨basic, 0x80, 0, 72⟩ tail
  else none

/-! ## Writing -/

def digit (d : Nat) : Char := Char.ofNat (if d < 26 then 0x61 + d else 0x30 + (d - 26))

theorem one_le_threshold (weight bias : Nat) : 1 ≤ threshold weight bias := by
  unfold threshold
  split
  · exact Nat.le_refl 1
  · split <;> omega

def digits (bias weight n : Nat) : List Char :=
  let t := threshold weight bias
  if n < t then [digit n]
  else digit (t + (n - t) % (36 - t)) :: digits bias (weight + 36) ((n - t) / (36 - t))
  termination_by n
  decreasing_by
    have := one_le_threshold weight bias
    have := Nat.div_le_self (n - threshold weight bias) (36 - threshold weight bias)
    omega

/-- Where the writing of numbers stands: the digits so far, the distance to the character that was
inserted last, the bias, and the count of characters inserted. -/
structure Spelling where
  output : List Char
  distance : Nat
  bias : Nat
  count : Nat

/-- Passes a character of the label while those with code point `n` are inserted. -/
def Spelling.pass (basicCount n : Nat) (s : Spelling) (c : Char) : Spelling :=
  if c.toNat < n then { s with distance := s.distance + 1 }
  else if c.toNat = n then
    ⟨s.output ++ digits s.bias 36 s.distance, 0,
      adapt s.distance (s.count + 1) (s.count == basicCount), s.count + 1⟩
  else s

/-- Inserts the characters with each of the given code points, which are ascending; those below
`reached` are done. -/
def Spelling.insertAll (label : List Char) (basicCount : Nat) :
    List Nat → Nat → Spelling → Spelling
  | [], _, s => s
  | n :: more, reached, s =>
    let s := { s with distance := s.distance + (n - reached) * (s.count + 1) }
    let s := label.foldl (Spelling.pass basicCount n) s
    Spelling.insertAll label basicCount more (n + 1) { s with distance := s.distance + 1 }

def encode (label : List Char) : List Char :=
  let basic := label.filter isAscii
  let codes := ((label.filter fun c => !isAscii c).map Char.toNat).mergeSort.eraseDups
  basic ++ (if basic.isEmpty then [] else ['-'])
    ++ (Spelling.insertAll label basic.length codes 0x80 ⟨[], 0, 72, basic.length⟩).output

end ApiSuite.Url.Punycode
