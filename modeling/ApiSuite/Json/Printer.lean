import ApiSuite.Binary64.Shortest
import ApiSuite.Json.Basic

/-! # The compact text of a JSON value

No blanks are written. In a string the quote, the backslash and the control characters below
U+0020 are escaped, everything else stands for itself. Fields are written in the order in which
the object lists them.
-/
namespace ApiSuite.Json

def hexDigit (n : Nat) : Char := Nat.digitChar n

def escaped (c : Char) : List Char :=
  if c = '"' then ['\\', '"']
  else if c = '\\' then ['\\', '\\']
  else if c = '\x08' then ['\\', 'b']
  else if c = '\t' then ['\\', 't']
  else if c = '\n' then ['\\', 'n']
  else if c = '\x0c' then ['\\', 'f']
  else if c = '\r' then ['\\', 'r']
  else if c.toNat < 0x20 then
    ['\\', 'u', '0', '0', hexDigit (c.toNat / 16), hexDigit (c.toNat % 16)]
  else [c]

def stringChars (s : String) : List Char :=
  '"' :: (s.toList.flatMap escaped ++ ['"'])

def Number.chars : Number → List Char
  | .int n => if n < 0 then '-' :: (Nat.repr n.natAbs).toList else (Nat.repr n.natAbs).toList
  | .real x => x.chars

mutual

def chars : Json → List Char
  | null => ['n', 'u', 'l', 'l']
  | bool true => ['t', 'r', 'u', 'e']
  | bool false => ['f', 'a', 'l', 's', 'e']
  | num n => n.chars
  | str s => stringChars s
  | arr [] => ['[', ']']
  | arr (v :: rest) => '[' :: (v.chars ++ itemChars rest)
  | obj [] => ['\x7b', '\x7d']
  | obj ((k, v) :: rest) => '\x7b' :: (stringChars k ++ ':' :: (v.chars ++ fieldChars rest))

/-- The elements after the first, and the closing bracket. -/
def itemChars : List Json → List Char
  | [] => [']']
  | v :: rest => ',' :: (v.chars ++ itemChars rest)

/-- The fields after the first, and the closing brace. -/
def fieldChars : List (String × Json) → List Char
  | [] => ['\x7d']
  | (k, v) :: rest => ',' :: (stringChars k ++ ':' :: (v.chars ++ fieldChars rest))

end

def render (v : Json) : String := .ofList v.chars

end ApiSuite.Json
