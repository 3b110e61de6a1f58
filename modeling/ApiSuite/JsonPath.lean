import ApiSuite.Json.Printer
import ApiSuite.Substitution

/-! # Paths into a document

A path is a sequence of fields, separated by points, and of indexes in brackets. A leading dollar
sign and a point after it may be left out; no steps at all lead to the whole document.
-/
namespace ApiSuite

inductive PathStep where
  | field (name : String)
  | index (n : Nat)
  deriving DecidableEq

/-- A path with the text it was read from, without blanks around it. -/
structure JsonPath where
  raw : String
  steps : List PathStep
  deriving DecidableEq

namespace JsonPath

/-- Where a reading of steps stands: the field being read, in reverse, and whether the last thing
read was an index with no point after it. -/
structure Cursor where
  field : List Char
  afterIndex : Bool

def Cursor.start : Cursor := ⟨[], false⟩

def fieldSteps (reversed : List Char) : List PathStep :=
  if reversed.isEmpty then [] else [.field (.ofList reversed.reverse)]

def index? (inner : List Char) : Option Nat := Text.unsigned? (Nat.pow 2 64) (Text.trim inner)

def steps? (c : Cursor) (text : List Char) : Option (List PathStep) :=
  match text with
  | [] => some (fieldSteps c.field)
  | '.' :: rest =>
    if c.field.isEmpty && !c.afterIndex then none
    else (fieldSteps c.field ++ ·) <$> steps? .start rest
  | '[' :: rest =>
    match _h : rest.dropWhile (· != ']') with
    | [] => none
    | _ :: after =>
      match index? (rest.takeWhile (· != ']')) with
      | none => none
      | some n => (fieldSteps c.field ++ .index n :: ·) <$> steps? ⟨[], true⟩ after
  | ']' :: _ => none
  | ch :: rest => if c.afterIndex then none else steps? ⟨ch :: c.field, false⟩ rest
  termination_by text.length
  decreasing_by
    · simp
    · have hlength := (List.dropWhile_suffix (l := rest) (· != ']')).length_le
      rw [_h] at hlength
      simp only [List.length_cons] at hlength ⊢
      omega
    · simp

/-- The part of a trimmed text after the dollar sign and the point. -/
def body (raw : List Char) : List Char :=
  let rest := match raw with
    | '$' :: rest => rest
    | _ => raw
  match rest with
  | '.' :: rest => rest
  | _ => rest

def parse (text : String) : Except VariableError JsonPath :=
  let raw := Text.trim text.toList
  match steps? .start (body raw) with
  | some steps => .ok ⟨.ofList raw, steps⟩
  | none => .error (.invalidPath (.ofList raw))

def PathStep.from? (v : Json) : PathStep → Option Json
  | .field name => v.field? name
  | .index n => v.item? n

def nowhere (raw : String) : PathStep → VariableError
  | .field name => .undefined ("Field '" ++ name ++ "' not found in JSON (" ++ raw ++ ")")
  | .index n => .undefined ("Array index " ++ toString n ++ " out of bounds (" ++ raw ++ ")")

def follow (raw : String) : List PathStep → Json → Except VariableError Json
  | [], v => .ok v
  | s :: rest, v =>
    match PathStep.from? v s with
    | some w => follow raw rest w
    | none => .error (nowhere raw s)

def evaluate (p : JsonPath) (v : Json) : Except VariableError Json := follow p.raw p.steps v

end JsonPath

end ApiSuite
