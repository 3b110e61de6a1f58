import ApiSuite.SuiteError

/-! # Resolving a template on the command line

The command reads a template from its standard input, fills it from an environment file and writes
the result. A settings file can be named as well, for the policy on unset variables.
-/
namespace ApiSuite.Resolve

structure Report where
  exitCode : UInt8
  output : String
  /-- Without the lines that a log writes for warnings. -/
  errors : String
  deriving DecidableEq

def usage : String :=
  "usage: rest-harness-resolve <environment-file> [config-file] < template\n"

def mark : String := "[rest-harness-resolve] "

structure Surroundings where
  files : Files
  overrides : Overrides
  input : List UInt8

variable (w : Surroundings)

def loaded : Option String → Traced SettingsError Settings
  | none => Settings.load none
  | some path => Settings.loadFile w.files path.toList

def settings (file : Option String) : Except SuiteError Settings :=
  match (loaded w file).outcome.bind w.overrides.apply with
  | .ok s => .ok s
  | .error e => .error (.settings e)

def environment (policy : MissingPolicy) (file : String) : Except SuiteError Store :=
  match EnvironmentFile.load w.files file.toList (.new policy) with
  | (store, .ok _) => .ok store
  | (_, .error e) => .error (.environment e)

def fill (store : Store) (template : String) : Except SuiteError String :=
  match (store.substitute template).outcome with
  | .ok text => .ok text
  | .error e => .error (.unresolved e)

def orMessage {α : Type} : Except SuiteError α → Except String α
  | .ok x => .ok x
  | .error e => .error e.message

/-- The filled template, or the message of the first stage that fails. -/
def filled (environmentFile : String) (settingsFile : Option String) : Except String String := do
  let settings ← orMessage (settings w settingsFile)
  let store ← orMessage (environment w settings.missingVariables environmentFile)
  let template ← match Files.textOf w.input with
    | .ok text => .ok text
    | .error e => .error e.message
  orMessage (fill store template)

def report (environmentFile : String) (settingsFile : Option String) : Report :=
  match filled w environmentFile settingsFile with
  | .ok text => ⟨0, text, ""⟩
  | .error message => ⟨1, "", mark ++ message ++ "\n"⟩

def run (arguments : List String) : Report :=
  match arguments with
  | [environmentFile] => report w environmentFile none
  | [environmentFile, settingsFile] => report w environmentFile (some settingsFile)
  | _ => ⟨2, "", usage⟩

end ApiSuite.Resolve
