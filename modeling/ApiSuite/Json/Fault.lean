import ApiSuite.Binary64.Shortest
import ApiSuite.Json.Basic
import ApiSuite.Text.Quoted
import ApiSuite.Text.Utf8

/-! # What can be wrong with a document

A cause says what is wrong, either with the text itself or with the shape of what it spells. A
fault is a cause met while reading: it remembers the input that was left, so that its place can be
counted afterwards from the whole text. Lines are counted from one, columns in bytes since the
last line feed.
-/
namespace ApiSuite.Json

open Text

inductive Found where
  | null
  | bool (b : Bool)
  | number (n : Number)
  | str (s : String)
  | sequence
  | map
  | unitVariant
  deriving DecidableEq

def Found.message : Found → String
  | null => "null"
  | bool true => "boolean `true`"
  | bool false => "boolean `false`"
  | number (.int n) => "integer `" ++ toString n ++ "`"
  | number (.real x) => "floating point `" ++ String.ofList x.chars ++ "`"
  | str s => "string " ++ quoted s
  | sequence => "sequence"
  | map => "map"
  | unitVariant => "unit variant"

def found : Json → Found
  | .null => .null
  | .bool b => .bool b
  | .num n => .number n
  | .str s => .str s
  | .arr _ => .sequence
  | .obj _ => .map

inductive Cause where
  | unfinishedValue
  | unfinishedList
  | unfinishedObject
  | unfinishedString
  | expectedColon
  | expectedListCommaOrEnd
  | expectedObjectCommaOrEnd
  | expectedIdent
  | expectedValue
  | invalidEscape
  | invalidNumber
  | numberOutOfRange
  | invalidCodePoint
  | controlCharacter
  | keyMustBeString
  | loneSurrogate
  | unfinishedSurrogatePair
  | trailingComma
  | trailingCharacters
  | tooDeep
  | invalidType (found : Found) (expected : String)
  | invalidValue (found : Found) (expected : String)
  | invalidLength (length : Nat) (expected : String)
  | unknownVariant (name : String) (known : List String)
  | unknownField (name : String) (known : List String)
  | missingField (name : String)
  | duplicateField (name : String)
  | noVariantMatches (type : String)
  | durationOverflow
  deriving DecidableEq

def backquoted (s : String) : String := "`" ++ s ++ "`"

def oneOf : List String → String
  | [a] => backquoted a
  | [a, b] => backquoted a ++ " or " ++ backquoted b
  | names => "one of " ++ ", ".intercalate (names.map backquoted)

def Cause.message : Cause → String
  | unfinishedValue => "EOF while parsing a value"
  | unfinishedList => "EOF while parsing a list"
  | unfinishedObject => "EOF while parsing an object"
  | unfinishedString => "EOF while parsing a string"
  | expectedColon => "expected " ++ backquoted ":"
  | expectedListCommaOrEnd => "expected " ++ backquoted "," ++ " or " ++ backquoted "]"
  | expectedObjectCommaOrEnd => "expected " ++ backquoted "," ++ " or " ++ backquoted "\x7d"
  | expectedIdent => "expected ident"
  | expectedValue => "expected value"
  | invalidEscape => "invalid escape"
  | invalidNumber => "invalid number"
  | numberOutOfRange => "number out of range"
  | invalidCodePoint => "invalid unicode code point"
  | controlCharacter => "control character (\\u0000-\\u001F) found while parsing a string"
  | keyMustBeString => "key must be a string"
  | loneSurrogate => "lone leading surrogate in hex escape"
  | unfinishedSurrogatePair => "unexpected end of hex escape"
  | trailingComma => "trailing comma"
  | trailingCharacters => "trailing characters"
  | tooDeep => "recursion limit exceeded"
  | invalidType found expected => "invalid type: " ++ found.message ++ ", expected " ++ expected
  | invalidValue found expected => "invalid value: " ++ found.message ++ ", expected " ++ expected
  | invalidLength length expected =>
    "invalid length " ++ toString length ++ ", expected " ++ expected
  | unknownVariant name known =>
    "unknown variant " ++ backquoted name ++ ", expected " ++ oneOf known
  | unknownField name known => "unknown field " ++ backquoted name ++ ", expected " ++ oneOf known
  | missingField name => "missing field " ++ backquoted name
  | duplicateField name => "duplicate field " ++ backquoted name
  | noVariantMatches type => "data did not match any variant of untagged enum " ++ type
  | durationOverflow => "overflow deserializing Duration"

structure Place where
  line : Nat
  column : Nat
  deriving DecidableEq

def Place.start : Place := ⟨1, 0⟩

def Place.after (p : Place) (s : Symbol) : Place :=
  if s = .char '\n' then ⟨p.line + 1, 0⟩ else ⟨p.line, p.column + s.width⟩

/-- The place after the next `bytes` bytes, which may end inside a character. -/
def Place.afterBytes (p : Place) : Nat → List Symbol → Place
  | 0, _ => p
  | _, [] => p
  | bytes + 1, s :: rest =>
    if s.width ≤ bytes + 1 then (p.after s).afterBytes (bytes + 1 - s.width) rest
    else ⟨p.line, p.column + bytes + 1⟩
  termination_by _ input => input.length

/-- A cause met while reading. The fault lies `bytes` bytes into `rest`, the input left there. A
fault that is not settled gets its place when the container around it is closed. -/
structure Fault where
  cause : Cause
  rest : List Symbol
  bytes : Nat
  settled : Bool

structure Error where
  cause : Cause
  place : Option Place

def Error.message (e : Error) : String :=
  match e.place with
  | none => e.cause.message
  | some p => s!"{e.cause.message} at line {p.line} column {p.column}"

def Fault.locate (input : List Symbol) (f : Fault) : Error :=
  if f.settled then
    let read := input.take (input.length - f.rest.length)
    ⟨f.cause, some ((read.foldl Place.after Place.start).afterBytes f.bytes f.rest)⟩
  else ⟨f.cause, none⟩

end ApiSuite.Json
