import ApiSuite.Json.Decoder
import ApiSuite.Text.Basic

/-! # Request methods

The name of a method can be spelled with any character whose full upper-case mapping consists of
ASCII letters. Apart from the ASCII letters there are ten of them.
-/
namespace ApiSuite

namespace Text

/-- The upper case of a character where that is ASCII, and the character itself elsewhere. -/
def upperChar (c : Char) : List Char :=
  match c.toNat with
  | 0xDF => ['S', 'S']
  | 0x131 => ['I']
  | 0x17F => ['S']
  | 0xFB00 => ['F', 'F']
  | 0xFB01 => ['F', 'I']
  | 0xFB02 => ['F', 'L']
  | 0xFB03 => ['F', 'F', 'I']
  | 0xFB04 => ['F', 'F', 'L']
  | 0xFB05 => ['S', 'T']
  | 0xFB06 => ['S', 'T']
  | _ => [c.toUpper]

def upper (cs : List Char) : List Char := cs.flatMap upperChar

end Text

inductive Method where
  | get
  | post
  | put
  | delete
  | patch
  | options
  | head
  deriving DecidableEq

namespace Method

def name : Method → String
  | get => "GET"
  | post => "POST"
  | put => "PUT"
  | delete => "DELETE"
  | patch => "PATCH"
  | options => "OPTIONS"
  | head => "HEAD"

def all : List Method := [get, post, put, delete, patch, options, head]

def ofText? (text : String) : Option Method :=
  let word := Text.upper (Text.trim text.toList)
  all.find? fun m => m.name.toList == word

/-- The name exactly as it is written. -/
def decoder : Json.Decoder Method := .choice (all.map fun m => .plain m.name m)

def toJson (m : Method) : Json := .str m.name

end Method

def unknownMethodMessage (text : String) : String := "Unknown HTTP method: " ++ text

end ApiSuite
