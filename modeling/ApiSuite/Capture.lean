import ApiSuite.Http.Response
import ApiSuite.JsonPath

/-! # Captures

A capture names a variable and the place in a response from which it is set: a path into the JSON
body or a header. A rule spells a capture as a name, an equals sign and a place, with blanks around
each of them.
-/
namespace ApiSuite

inductive CaptureSource where
  | json (path : JsonPath)
  | header (name : String)
  deriving DecidableEq

structure Capture where
  variableName : String
  source : CaptureSource
  deriving DecidableEq

namespace Capture

def json (variableName path : String) : Except VariableError Capture := do
  return ⟨variableName, .json (← JsonPath.parse path)⟩

def header (variableName name : String) : Capture := ⟨variableName, .header name⟩

def isNameStart (c : Char) : Bool := c.isAlpha || c == '_'

def isNameChar (c : Char) : Bool := c.isAlphanum || c == '_'

/-- The place in the text after the equals sign: it is what is left without the blanks at the ends,
or, when there is nothing but blanks, the last of them that is not a line feed; the blanks before
that one have to be allowed to stand before a place. -/
def place? (text : List Char) : Option (List Char) :=
  match Text.trim text with
  | [] => (text.reverse.find? (· != '\n')).map ([·])
  | place => if place.contains '\n' then none else some place

def split? (rule : List Char) : Option (List Char × List Char) :=
  let start := Text.trimStart rule
  let name := start.takeWhile isNameChar
  if !name.head?.any isNameStart then none
  else match Text.trimStart (start.drop name.length) with
    | '=' :: rest => (place? rest).map (name, ·)
    | _ => none

def headerMark : List Char := ['h', 'e', 'a', 'd', 'e', 'r', 's', '.']

def parse (rule : String) : Except VariableError Capture :=
  match split? rule.toList with
  | none => .error (.invalidPath ("Malformed capture rule: " ++ rule))
  | some (name, place) =>
    if headerMark.isPrefixOf place then
      let header := Text.trim (place.drop headerMark.length)
      if header.isEmpty then .error (.invalidPath ("Missing header name: " ++ rule))
      else .ok ⟨.ofList name, .header (.ofList header)⟩
    else json (.ofList name) (.ofList place)

def extract (c : Capture) (r : Response) : Except VariableError Json :=
  match c.source with
  | .header name =>
    match r.header? name with
    | some value => .ok (.str value)
    | none => .error (.undefined ("Header '" ++ name ++ "' not found in response"))
  | .json path =>
    match r.json with
    | .error e => .error (.invalidResponse ("Failed to parse JSON response: " ++ e.message))
    | .ok v => path.evaluate v

/-- Applies captures in order up to the first that fails. The store keeps what was written before
the failure. -/
def applyAll (r : Response) (s : Store) : List Capture → Store × Except VariableError Unit
  | [] => (s, .ok ())
  | c :: rest =>
    match c.extract r with
    | .error e => (s, .error e)
    | .ok v => applyAll r (s.setJson c.variableName v) rest

end Capture

end ApiSuite
