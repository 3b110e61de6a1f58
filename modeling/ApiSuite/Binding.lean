import ApiSuite.Json.Decoder
import ApiSuite.Json.Printer

/-! # Bindings and the policy for unset names

A name can be bound to a text or to null, which is not the same as being unset. What a placeholder
with an unset name becomes is a policy of its own.
-/
namespace ApiSuite

inductive Binding where
  | text (value : String)
  | null
  deriving DecidableEq

namespace Binding

def text? : Binding → Option String
  | text value => some value
  | null => none

def isNull : Binding → Bool
  | text _ => false
  | null => true

def substitutionText : Binding → String
  | text value => value
  | null => "null"

def ofOption : Option String → Binding
  | some value => text value
  | none => null

/-- A string binds its own text, null binds null and any other value its compact text. -/
def ofJson : Json → Binding
  | .null => null
  | .str s => text s
  | v => text v.render

def toJson : Binding → Json
  | text value => .str value
  | null => .null

/-- A string or null; any other value is refused without a place. -/
def decoder : Json.Decoder Binding where
  read limits := do
    match ← Json.Reader.value limits limits.depth with
    | .str s => return text s
    | .null => return null
    | _ => Json.Reader.mismatch (.noVariantMatches "Binding")
  ofJson
    | .str s => .ok (text s)
    | .null => .ok null
    | _ => .error (.noVariantMatches "Binding")

end Binding

/-- What becomes of a placeholder whose name is unset: it stays, it is an error, or it vanishes. -/
inductive MissingPolicy where
  | leaveAsIs
  | fail
  | empty
  deriving DecidableEq

namespace MissingPolicy

def name : MissingPolicy → String
  | leaveAsIs => "leaveAsIs"
  | fail => "fail"
  | empty => "empty"

def all : List MissingPolicy := [leaveAsIs, fail, empty]

def ofName? (s : String) : Option MissingPolicy := all.find? fun p => p.name == s

def toJson (p : MissingPolicy) : Json := .str p.name

def decoder : Json.Decoder MissingPolicy :=
  .choice (all.map fun p => .plain p.name p)

end MissingPolicy

end ApiSuite
