import ApiSuite.Binding
import ApiSuite.Files.Basic
import ApiSuite.Http.Response
import ApiSuite.Url
import ApiSuite.Warning

/-! # Settings of a run

Settings are read from a document under a key of their own, over defaults. Settings that do not
decode are replaced with the defaults as a whole, with a warning. Process variables can override
three of the fields. What is loaded, and what is overridden, is validated.
-/
namespace ApiSuite

inductive SettingsError where
  | parse (reason : String)
  | invalid (reason : String)
  deriving DecidableEq

def SettingsError.message : SettingsError → String
  | parse reason => "Failed to parse configuration: " ++ reason
  | invalid reason => "Invalid configuration: " ++ reason

structure Execution where
  timeout : UInt64
  followRedirects : Bool
  validateSsl : Bool
  deriving DecidableEq

structure Settings where
  server : String
  /-- in milliseconds -/
  timeout : UInt64
  followRedirects : Bool
  validateSsl : Bool
  missingVariables : MissingPolicy
  environmentFile : Option String
  defaultHeaders : SortedMap String
  deriving DecidableEq

namespace Settings

def default : Settings where
  server := "http://localhost:8088"
  timeout := 30000
  followRedirects := true
  validateSsl := true
  missingVariables := .leaveAsIs
  environmentFile := none
  defaultHeaders := SortedMap.ofList [("Accept", "application/json")]

def record : Json.Record Settings where
  title := "struct HarnessConfig"
  arrayTitle := "struct HarnessConfig with 7 elements"
  blank := default
  fields := [
    .of "server" .defaulted .string fun x s => { s with server := x },
    .of "timeout" .defaulted .uint64 fun x s => { s with timeout := x },
    .of "followRedirects" .defaulted .bool fun x s => { s with followRedirects := x },
    .of "validateSsl" .defaulted .bool fun x s => { s with validateSsl := x },
    .of "missingVariables" .defaulted MissingPolicy.decoder
      fun x s => { s with missingVariables := x },
    .of "environmentFile" .defaulted (.option .string) fun x s => { s with environmentFile := x },
    .of "defaultHeaders" .defaulted (.mapOf .string) fun x s => { s with defaultHeaders := x }]

def decoder : Json.Decoder Settings := .record record

variable (s : Settings)

def toJson : Json :=
  .obj [("server", .str s.server), ("timeout", .num (.int s.timeout.toNat)),
    ("followRedirects", .bool s.followRedirects), ("validateSsl", .bool s.validateSsl),
    ("missingVariables", s.missingVariables.toJson),
    ("environmentFile", match s.environmentFile with
      | none => .null
      | some path => .str path),
    ("defaultHeaders", .obj (s.defaultHeaders.entries.map fun h => (h.1, .str h.2)))]

def execution : Execution := ⟨s.timeout, s.followRedirects, s.validateSsl⟩

/-- Checks the timeout, then the URL of the server, then its scheme. -/
def validate : Except SettingsError Unit :=
  if s.timeout = 0 then .error (.invalid "timeout must be greater than 0")
  else match Url.parse s.server with
    | .error e => .error (.invalid
        ("server '" ++ s.server ++ "' is not a valid URL: " ++ e.message))
    | .ok url =>
      if url.isHttp then .ok ()
      else .error (.invalid
        ("server must use http or https, got '" ++ .ofList url.scheme ++ "'"))

def validated : Except SettingsError Settings := do
  s.validate
  return s

def key : String := "rest-harness"

/-- The settings of a document over the defaults, not yet validated. -/
def merge (document : Option Json) : Traced SettingsError Settings :=
  match document.bind (Json.field? key) with
  | none => .ok default
  | some value =>
    match decoder.ofJson value with
    | .ok settings => .ok settings
    | .error cause => do
      .warn (.settingsIgnored cause)
      return default

def load (document : Option Json) : Traced SettingsError Settings := do
  let s ← merge document
  ⟨[], s.validated⟩

def inFile (path : List Char) (reason : String) : SettingsError :=
  .parse (.ofList path ++ ": " ++ reason)

def readFile (files : Files) (path : List Char) : Except SettingsError Json :=
  match files.readText path with
  | .error e => .error (inFile path e.message)
  | .ok text => match Json.parse text with
    | .error e => .error (inFile path e.message)
    | .ok document => .ok document

def loadFile (files : Files) (path : List Char) : Traced SettingsError Settings := do
  let document ← ⟨[], readFile files path⟩
  load (some document)

end Settings

structure Overrides where
  server : Option String
  timeout : Option String
  missingVariables : Option String
  deriving DecidableEq

namespace Overrides

def serverVariable : String := "HARNESS_SERVER"

def timeoutVariable : String := "HARNESS_TIMEOUT_MS"

def missingVariablesVariable : String := "HARNESS_MISSING_VARIABLES"

def ofLookup (lookup : String → Option String) : Overrides :=
  ⟨lookup serverVariable, lookup timeoutVariable, lookup missingVariablesVariable⟩

def timeout? (text : String) : Except SettingsError UInt64 :=
  match Text.unsigned? (Nat.pow 2 64) (Text.trim text.toList) with
  | some n => .ok (.ofNat n)
  | none => .error (.invalid (timeoutVariable ++ " must be a number, got '" ++ text ++ "'"))

def policy? (text : String) : Except SettingsError MissingPolicy :=
  match MissingPolicy.ofName? (Text.trimmed text) with
  | some p => .ok p
  | none => .error (.invalid (missingVariablesVariable
      ++ " must be one of leaveAsIs, fail, empty; got '" ++ text ++ "'"))

def orElse {α : Type} (override : Option String) (read : String → Except SettingsError α)
    (inPlace : α) : Except SettingsError α :=
  match override with
  | none => .ok inPlace
  | some text => read text

/-- Replaces the overridden fields; the first override that does not parse is the error. -/
def replace (o : Overrides) (s : Settings) : Except SettingsError Settings := do
  let server ← orElse o.server .ok s.server
  let timeout ← orElse o.timeout timeout? s.timeout
  let missingVariables ← orElse o.missingVariables policy? s.missingVariables
  return { s with server, timeout, missingVariables }

def apply (o : Overrides) (s : Settings) : Except SettingsError Settings := do
  (← o.replace s).validated

end Overrides

namespace Execution

def default : Execution := Settings.default.execution

def record : Json.Record Execution where
  title := "struct ExecutionConfig"
  arrayTitle := "struct ExecutionConfig with 3 elements"
  blank := default
  fields := [
    .of "timeout_ms" .required .uint64 fun x e => { e with timeout := x },
    .of "follow_redirects" .required .bool fun x e => { e with followRedirects := x },
    .of "validate_ssl" .required .bool fun x e => { e with validateSsl := x }]

def decoder : Json.Decoder Execution := .record record

def toJson (e : Execution) : Json :=
  .obj [("timeout_ms", .num (.int e.timeout.toNat)), ("follow_redirects", .bool e.followRedirects),
    ("validate_ssl", .bool e.validateSsl)]

def timeoutDuration (e : Execution) : Duration := .ofMilliseconds e.timeout

end Execution

end ApiSuite
