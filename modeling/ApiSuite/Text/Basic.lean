/-! # Texts as lists of characters

A blank is a character with the Unicode property White_Space; the table is the whole property. The
spelling of an unsigned number is one optional plus sign and at least one ASCII digit, nothing else.
In base 64 three bytes become four characters, and what is missing at the end is marked by equals
signs.
-/
namespace ApiSuite.Text

/-- The ranges of the property White_Space, both ends included. -/
def blankRanges : List (Nat × Nat) :=
  [(0x9, 0xD), (0x20, 0x20), (0x85, 0x85), (0xA0, 0xA0), (0x1680, 0x1680), (0x2000, 0x200A),
   (0x2028, 0x2029), (0x202F, 0x202F), (0x205F, 0x205F), (0x3000, 0x3000)]

def isBlank (c : Char) : Bool :=
  blankRanges.any fun r => r.1 ≤ c.toNat && c.toNat ≤ r.2

def trimStart (cs : List Char) : List Char := cs.dropWhile isBlank

def trimEnd (cs : List Char) : List Char := (cs.reverse.dropWhile isBlank).reverse

def trim (cs : List Char) : List Char := trimEnd (trimStart cs)

def trimmed (s : String) : String := .ofList (trim s.toList)

/-- The parts of a text between the characters that satisfy `p`. There is always at least one. -/
def parts (p : Char → Bool) (cs : List Char) : List (List Char) :=
  cs.foldr (fun c split =>
    if p c then [] :: split
    else match split with
      | [] => [[c]]
      | part :: rest => (c :: part) :: rest) [[]]

def isDigit (c : Char) : Bool := '0' ≤ c && c ≤ '9'

def digitValue (c : Char) : Nat := c.toNat - 48

def decimalValue (ds : List Char) : Nat := ds.foldl (fun n d => 10 * n + digitValue d) 0

def unsigned? (limit : Nat) (cs : List Char) : Option Nat :=
  let ds := match cs with
    | '+' :: rest => rest
    | _ => cs
  if ds.isEmpty || !ds.all isDigit then none
  else if decimalValue ds < limit then some (decimalValue ds) else none

def base64Digit (n : Nat) : Char :=
  if n < 26 then Char.ofNat (0x41 + n)
  else if n < 52 then Char.ofNat (0x61 + n - 26)
  else if n < 62 then Char.ofNat (0x30 + n - 52)
  else if n = 62 then '+' else '/'

def base64Group (a b c : UInt8) : List Char :=
  let n := 65536 * a.toNat + 256 * b.toNat + c.toNat
  ([262144, 4096, 64, 1] : List Nat).map fun unit => base64Digit (n / unit % 64)

def base64 : List UInt8 → List Char
  | a :: b :: c :: rest => base64Group a b c ++ base64 rest
  | [a, b] => (base64Group a b 0).take 3 ++ ['=']
  | [a] => (base64Group a 0 0).take 2 ++ ['=', '=']
  | [] => []

end ApiSuite.Text
