import ApiSuite.Placeholder
import ApiSuite.Store
import ApiSuite.Warning

/-! # Substitution

The placeholders of a text are replaced in one pass. A value is inserted as it is and never read
for placeholders again.
-/
namespace ApiSuite

/-- What is wrong with a variable, a capture path or the response that a capture reads. -/
inductive VariableError where
  | undefined (what : String)
  | invalidPath (what : String)
  | invalidResponse (what : String)
  deriving DecidableEq

def VariableError.message : VariableError → String
  | undefined what => "Undefined variable: " ++ what
  | invalidPath what => "Invalid capture path: " ++ what
  | invalidResponse what => "Invalid response: " ++ what

namespace Store

variable (s : Store)

def fill : Piece → Traced VariableError (List Char)
  | .literal c => .ok [c]
  | .hole inner =>
    let name := Piece.nameOf inner
    match s.binding? name with
    | some b => .ok b.substitutionText.toList
    | none => match s.policy with
      | .leaveAsIs => do
        .warn (.leftInPlace name)
        return (Piece.hole inner).source
      | .empty => do
        .warn (.replacedWithEmpty name)
        return []
      | .fail => .fail (.undefined name)

def fillAll : List Piece → Traced VariableError (List Char)
  | [] => .ok []
  | p :: rest => do
    let cs ← s.fill p
    let more ← fillAll rest
    return cs ++ more

def fillText (text : String) : Traced VariableError String := do
  let cs ← s.fillAll (Piece.scan text.toList)
  return String.ofList cs

/-- The text with every placeholder replaced as the store and its policy say. A text without an
opening pair of braces is not scanned. -/
def substitute (text : String) : Traced VariableError String :=
  if Piece.hasOpening text.toList then s.fillText text else .ok text

/-- The names among these that are unset, each once, in order of first occurrence. -/
def unset (names : List String) : List String :=
  (names.filter fun name => !s.contains name).eraseDups

def missing (text : String) : List String := s.unset (placeholders text)

mutual

/-- Substitutes in every string leaf and leaves keys and all other leaves as they are. -/
def substituteJson : Json → Traced VariableError Json
  | .str text => do return .str (← s.substitute text)
  | .arr items => do return .arr (← substituteItems items)
  | .obj fields => do return .obj (← substituteFields fields)
  | v => .ok v

def substituteItems : List Json → Traced VariableError (List Json)
  | [] => .ok []
  | v :: rest => do
    let w ← substituteJson v
    let more ← substituteItems rest
    return w :: more

def substituteFields : List (String × Json) → Traced VariableError (List (String × Json))
  | [] => .ok []
  | (k, v) :: rest => do
    let w ← substituteJson v
    let more ← substituteFields rest
    return (k, w) :: more

end

end Store

namespace Json

mutual

def strings : Json → List String
  | .str s => [s]
  | .arr items => stringsOfItems items
  | .obj fields => stringsOfFields fields
  | _ => []

def stringsOfItems : List Json → List String
  | [] => []
  | v :: rest => v.strings ++ stringsOfItems rest

def stringsOfFields : List (String × Json) → List String
  | [] => []
  | (_, v) :: rest => v.strings ++ stringsOfFields rest

end

end Json

end ApiSuite
