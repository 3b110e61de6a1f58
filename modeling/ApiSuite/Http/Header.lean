import ApiSuite.Text.Basic

/-! # Header fields

Header names are compared without regard to the case of ASCII letters. Before a header goes on the
wire its name has to be a token and its value has to be free of control characters.
-/
namespace ApiSuite

/-- Lower case of the ASCII letters; other characters stay. -/
def foldCase (s : String) : List Char := s.toList.map Char.toLower

def sameName (a b : String) : Bool := foldCase a == foldCase b

abbrev Headers := List (String × String)

namespace Headers

def get? (headers : List (String × String)) (name : String) : Option String :=
  (headers.find? fun h => sameName h.1 name).map Prod.snd

def has (headers : List (String × String)) (name : String) : Bool :=
  headers.any fun h => sameName h.1 name

end Headers

namespace Http

def isTokenChar (c : Char) : Bool :=
  c.isAlphanum || ['!', '#', '$', '%', '&', '\'', '*', '+', '-', '.', '^', '_', '\x60', '|',
    '~'].contains c

def maxNameLength : Nat := 65535

def isHeaderName (name : String) : Bool :=
  name.toList.all isTokenChar && !name.isEmpty && name.length ≤ maxNameLength

def isHeaderValue (value : String) : Bool :=
  value.toList.all fun c => c == '\t' || (0x20 ≤ c.toNat && c.toNat != 0x7F)

def headerProblem? (name value : String) : Option String :=
  if !isHeaderName name then some "invalid HTTP header name"
  else if !isHeaderValue value then some "failed to parse header value"
  else none

end Http

end ApiSuite
