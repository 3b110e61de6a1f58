import ApiSuite.Files.Basic
import ApiSuite.Files.Path
import ApiSuite.Store

/-! # Environment files

An environment file seeds the store before the first step of a suite. It is a JSON object, either
flat, with a value per name, or exported, with a list of entries under `values`. All entries are
checked before the first is written, so a file seeds the store wholly or not at all. Without a
configured path the file is looked for upwards from a directory.
-/
namespace ApiSuite

inductive EnvironmentError where
  | fileNotFound (path : String)
  | parse (reason : String)
  | invalidFormat (reason : String)
  | io (reason : String)
  deriving DecidableEq

def EnvironmentError.message : EnvironmentError → String
  | fileNotFound path => "Environment file not found: " ++ path
  | parse reason => "Failed to parse environment file: " ++ reason
  | invalidFormat reason => "Invalid environment format: " ++ reason
  | io reason => "IO error: " ++ reason

structure ExportedEntry where
  key : String
  value : Json
  enabled : Bool
  deriving DecidableEq

namespace ExportedEntry

def record : Json.Record ExportedEntry where
  title := "struct ExportedVariable"
  arrayTitle := "struct ExportedVariable with 3 elements"
  blank := ⟨"", .null, true⟩
  fields := [
    .of "key" .required .string fun x e => { e with key := x },
    .of "value" .defaulted .json fun x e => { e with value := x },
    .of "enabled" .defaulted .bool fun x e => { e with enabled := x }]

def decoder : Json.Decoder ExportedEntry := .record record

end ExportedEntry

namespace EnvironmentFile

def valuesKey : String := "values"

def isScalar : Json → Bool
  | .arr _ => false
  | .obj _ => false
  | _ => true

def entries (raw : Json) : Except EnvironmentError (List (String × Json)) :=
  match raw with
  | .obj fields =>
    match raw.field? valuesKey with
    | none => .ok fields
    | some values =>
      match (Json.Decoder.listOf ExportedEntry.decoder).ofJson values with
      | .error cause => .error (.invalidFormat
          ("'values' must be a list of key/value entries: " ++ cause.message))
      | .ok listed => .ok ((listed.filter ExportedEntry.enabled).map fun e => (e.key, e.value))
  | _ => .error (.invalidFormat "Root must be a JSON object")

def checkScalars (entries : List (String × Json)) : Except EnvironmentError Unit :=
  match entries.find? fun e => !isScalar e.2 with
  | none => .ok ()
  | some e => .error (.invalidFormat
      ("Variable '" ++ e.1 ++ "' has invalid type (must be string, number, boolean, or null)"))

def plan (raw : Json) : Except EnvironmentError (List (String × Json)) := do
  let found ← entries raw
  checkScalars found
  return found

/-- What seeding leaves behind: the store and the number of entries written. -/
abbrev Seeded := Store × Except EnvironmentError Nat

def seed (s : Store) (raw : Json) : Seeded :=
  match plan raw with
  | .error e => (s, .error e)
  | .ok found => (s.setManyJson found, .ok found.length)

def read (files : Files) (path : List Char) : Except EnvironmentError Json :=
  if !files.isFile path then .error (.fileNotFound (.ofList path))
  else match files.readText path with
    | .error e => .error (.io e.message)
    | .ok text => match Json.parse text with
      | .error e => .error (.parse e.message)
      | .ok raw => .ok raw

def load (files : Files) (path : List Char) (s : Store) : Seeded :=
  match read files path with
  | .error e => (s, .error e)
  | .ok raw => seed s raw

/-- The names that an environment file may have, the preferred one first. -/
def fileNames : List (List Char) := [".harness-env.json".toList, "harness.env.json".toList]

def searchDepth : Nat := 3

def candidates (start : List Char) : List (List Char) :=
  (Path.ancestors searchDepth start).flatMap fun d => fileNames.map (Path.child d)

def find (files : Files) (start : List Char) : Option (List Char) :=
  (candidates start).find? files.isFile

/-- Loads the file found from a start; without one nothing is written. -/
def discover (files : Files) (start : List Char) (s : Store) : Seeded :=
  match find files start with
  | some path => load files path s
  | none => (s, .ok 0)

end EnvironmentFile

end ApiSuite
