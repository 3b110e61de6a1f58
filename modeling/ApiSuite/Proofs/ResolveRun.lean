import ApiSuite.Proofs.DefaultSettings
import ApiSuite.Proofs.EnvironmentSeed
import ApiSuite.Proofs.Utf8
import ApiSuite.Resolve

/-! # Runs of the command

A run of the command goes through five stages: the settings file, the overrides, the environment
file, the template and the substitution. It writes the filled template when all of them succeed, and
otherwise nothing but the message of the first that fails.
-/
namespace ApiSuite

/-- A store binds each name to its last value among some entries, and no other name. -/
def Store.Binds (s : Store) (entries : List (String × Json)) : Prop :=
  ∀ name b, s.binding? name = some b ↔
    ∃ front v back, entries = front ++ (name, v) :: back ∧ (∀ e ∈ back, e.1 ≠ name) ∧
      Binding.ofJson v = b

theorem Store.policy_new_setManyJson (policy : MissingPolicy) (entries : List (String × Json)) :
    ((Store.new policy).setManyJson entries).policy = policy := by
  rw [setManyJson_eq]
  rfl

theorem Store.binds_new_setManyJson (policy : MissingPolicy) (entries : List (String × Json)) :
    ((Store.new policy).setManyJson entries).Binds entries := by
  intro name b
  have hnone : (Store.new policy).binding? name = none := rfl
  rw [binding?_setManyJson, hnone, Option.or_none, Option.map_eq_some_iff]
  constructor
  · rintro ⟨v, hv, hb⟩
    obtain ⟨front, back, hsplit, hback⟩ := Entries.get?_reverse_eq_some_iff.1 hv
    exact ⟨front, v, back, hsplit, hback, hb⟩
  · rintro ⟨front, v, back, hsplit, hback, hb⟩
    exact ⟨v, Entries.get?_reverse_eq_some_iff.2 ⟨front, back, hsplit, hback⟩, hb⟩

theorem Store.Binds.unique {s t : Store} {entries : List (String × Json)} (hs : s.Binds entries)
    (ht : t.Binds entries) (hpolicy : s.policy = t.policy) : s = t := by
  have hbindings : s.bindings = t.bindings := by
    refine SortedMap.ext_get? fun name => Option.ext fun b => ?_
    exact (hs name b).trans (ht name b).symm
  cases s
  cases t
  cases hbindings
  cases hpolicy
  rfl

namespace Files

theorem textOf_eq_ok_iff {bytes : List UInt8} {text : String} :
    textOf bytes = .ok text ↔ bytes = Text.encode text := by
  have hread : bytes = Text.encode text ↔ Text.toText bytes = .ok text := by
    rw [Text.toText_eq_ok_iff, eq_comm]
  rw [hread, textOf]
  cases Text.toText bytes <;> simp

theorem textOf_eq_of_not_encode {bytes : List UInt8} (h : ∀ text, bytes ≠ Text.encode text) :
    textOf bytes = .error .notText := by
  rw [textOf]
  cases hread : Text.toText bytes with
  | ok text => exact absurd (Text.toText_eq_ok_iff.1 hread).symm (h text)
  | error m => rfl

end Files

namespace EnvironmentFile

/-- A file stands at a path and has text that spells a document, and these entries are what the
document enables, all of them scalars. -/
def Enables (files : Files) (path : List Char) (entries : List (String × Json)) : Prop :=
  files.isFile path = true ∧
    ∃ text raw listed, files.read path = .ok (Text.encode text) ∧ Json.parse text = .ok raw ∧
      Lists raw listed ∧ bindingsOf listed = entries ∧
        ∀ e ∈ listed, e.enabled = true → isScalar e.value = true

theorem readText_eq_ok_iff {files : Files} {path : List Char} {text : String} :
    files.readText path = .ok text ↔ files.read path = .ok (Text.encode text) := by
  simp only [Files.readText, bind_eq_ok_iff, Files.textOf_eq_ok_iff, exists_eq_right]

theorem read_eq_ok_iff {files : Files} {path : List Char} {raw : Json} :
    read files path = .ok raw ↔ files.isFile path = true ∧
      ∃ text, files.read path = .ok (Text.encode text) ∧ Json.parse text = .ok raw := by
  simp only [← readText_eq_ok_iff]
  rw [read]
  cases files.isFile path with
  | false => simp
  | true =>
    cases files.readText path with
    | error cause => simp
    | ok text =>
      cases hparse : Json.parse text with
      | error e => simp [hparse]
      | ok doc => simp [hparse]

theorem load_eq_ok_iff {files : Files} {path : List Char} {s s' : Store} {n : Nat} :
    load files path s = (s', .ok n) ↔
      ∃ entries, Enables files path entries ∧ s.setManyJson entries = s' ∧ entries.length = n := by
  constructor
  · intro h
    cases hread : read files path with
    | error e =>
      rw [load_eq_of_unread s hread] at h
      cases h
    | ok raw =>
      obtain ⟨hfile, text, htext, hparse⟩ := read_eq_ok_iff.1 hread
      rw [load_eq_of_read s hread] at h
      cases hplan : plan raw with
      | error e =>
        rw [seed_eq_of_refused s hplan] at h
        cases h
      | ok found =>
        rw [seed_eq_of_plan s hplan] at h
        cases h
        obtain ⟨listed, hlisted, hfound, hscalar⟩ :=
          (plan_eq_ok_iff (Json.canonical_of_parse hparse)).1 hplan
        exact ⟨found, ⟨hfile, text, raw, listed, htext, hparse, hlisted, hfound, hscalar⟩, rfl, rfl⟩
  · rintro ⟨entries, ⟨hfile, text, raw, listed, htext, hparse, hlisted, hfound, hscalar⟩, rfl, rfl⟩
    have hplan : plan raw = .ok entries :=
      (plan_eq_ok_iff (Json.canonical_of_parse hparse)).2 ⟨listed, hlisted, hfound, hscalar⟩
    rw [load_eq_of_read s (read_eq_ok_iff.2 ⟨hfile, text, htext, hparse⟩),
      seed_eq_of_plan s hplan]

end EnvironmentFile

namespace Resolve

variable (w : Surroundings)

/-- The settings before any override: those of the settings file, or the defaults without one. -/
inductive Loaded : Option String → Settings → Prop
  | default : Loaded none .default
  | file {path : String} {s : Settings}
    (h : (Settings.loadFile w.files path.toList).outcome = .ok s) : Loaded (some path) s

def Configured (settingsFile : Option String) (s : Settings) : Prop :=
  ∃ loaded, Loaded w settingsFile loaded ∧ w.overrides.apply loaded = .ok s

variable (environmentFile : String) (settingsFile : Option String)

/-- All stages succeed: the input is a template, and this is the template filled from a store with
the configured policy that holds what the environment file enables. -/
inductive Succeeds : String → Prop
  | intro {s : Settings} {entries : List (String × Json)} {store : Store} {template text : String}
    (hconfigured : Configured w settingsFile s)
    (henables : EnvironmentFile.Enables w.files environmentFile.toList entries)
    (hbinds : store.Binds entries) (hpolicy : store.policy = s.missingVariables)
    (hinput : w.input = Text.encode template)
    (hfilled : (store.substitute template).outcome = .ok text) : Succeeds text

/-- The stages before one of them succeed, and that one fails with the message. -/
inductive FailsFirst : String → Prop
  | settings {path : String} {e : SettingsError} (hfile : settingsFile = some path)
    (h : (Settings.loadFile w.files path.toList).outcome = .error e) : FailsFirst e.message
  | overrides {loaded : Settings} {e : SettingsError} (hloaded : Loaded w settingsFile loaded)
    (h : w.overrides.apply loaded = .error e) : FailsFirst e.message
  | environment {s : Settings} {e : EnvironmentError} (hconfigured : Configured w settingsFile s)
    (h : (EnvironmentFile.load w.files environmentFile.toList (.new s.missingVariables)).2 =
      .error e) : FailsFirst e.message
  | input {s : Settings} {entries : List (String × Json)}
    (hconfigured : Configured w settingsFile s)
    (henables : EnvironmentFile.Enables w.files environmentFile.toList entries)
    (h : ∀ template, w.input ≠ Text.encode template) : FailsFirst FileError.notText.message
  | substitution {s : Settings} {entries : List (String × Json)} {store : Store}
    {template : String} {e : VariableError} (hconfigured : Configured w settingsFile s)
    (henables : EnvironmentFile.Enables w.files environmentFile.toList entries)
    (hbinds : store.Binds entries) (hpolicy : store.policy = s.missingVariables)
    (hinput : w.input = Text.encode template)
    (h : (store.substitute template).outcome = .error e) : FailsFirst e.message

/-! ## The stages -/

theorem exists_loaded : (∃ loaded, Loaded w settingsFile loaded) ∨
    ∃ path e, settingsFile = some path ∧
      (Settings.loadFile w.files path.toList).outcome = .error e := by
  cases settingsFile with
  | none => exact .inl ⟨Settings.default, Loaded.default⟩
  | some path =>
    cases h : (Settings.loadFile w.files path.toList).outcome with
    | ok loaded => exact .inl ⟨loaded, .file h⟩
    | error e => exact .inr ⟨path, e, rfl, h⟩

variable {w} {environmentFile} {settingsFile}

theorem settings_eq_of_unloaded {path : String} {e : SettingsError}
    (hfile : settingsFile = some path)
    (h : (Settings.loadFile w.files path.toList).outcome = .error e) :
    settings w settingsFile = .error (.settings e) := by
  have hloaded : (loaded w settingsFile).outcome = .error e := by rw [hfile, loaded, h]
  rw [settings, hloaded]
  rfl

theorem Loaded.outcome_eq {s : Settings} (h : Loaded w settingsFile s) :
    (loaded w settingsFile).outcome = .ok s := by
  cases h with
  | default => exact Settings.outcome_load_none
  | file h => exact h

theorem settings_eq_of_refused {s : Settings} {e : SettingsError}
    (hloaded : Loaded w settingsFile s) (h : w.overrides.apply s = .error e) :
    settings w settingsFile = .error (.settings e) := by
  rw [settings, hloaded.outcome_eq, Except.bind, h]

theorem settings_eq_of_configured {s : Settings} (h : Configured w settingsFile s) :
    settings w settingsFile = .ok s := by
  obtain ⟨base, hbase, happly⟩ := h
  rw [settings, hbase.outcome_eq, Except.bind, happly]

theorem environment_eq_of_failed {policy : MissingPolicy} {e : EnvironmentError}
    (h : (EnvironmentFile.load w.files environmentFile.toList (.new policy)).2 = .error e) :
    environment w policy environmentFile = .error (.environment e) := by
  rw [environment]
  generalize EnvironmentFile.load w.files environmentFile.toList (.new policy) = seeded at h ⊢
  obtain ⟨store, result⟩ := seeded
  cases h
  rfl

/-- The store of a run is the only one with its policy that holds what the file enables. -/
theorem environment_eq_of_binds {policy : MissingPolicy} {entries : List (String × Json)}
    {store : Store} (henables : EnvironmentFile.Enables w.files environmentFile.toList entries)
    (hbinds : store.Binds entries) (hpolicy : store.policy = policy) :
    environment w policy environmentFile = .ok store := by
  have hstore : (Store.new policy).setManyJson entries = store :=
    (Store.binds_new_setManyJson policy entries).unique hbinds
      ((Store.policy_new_setManyJson policy entries).trans hpolicy.symm)
  have hload : EnvironmentFile.load w.files environmentFile.toList (.new policy) =
      ((Store.new policy).setManyJson entries, .ok entries.length) :=
    EnvironmentFile.load_eq_ok_iff.2 ⟨entries, henables, rfl, rfl⟩
  rw [environment, hload, hstore]

/-! ## The run -/

theorem filled_eq_of_succeeds {text : String} (h : Succeeds w environmentFile settingsFile text) :
    filled w environmentFile settingsFile = .ok text := by
  obtain ⟨hconfigured, henables, hbinds, hpolicy, hinput, hfilled⟩ := h
  have hsettings := settings_eq_of_configured hconfigured
  have hstore := environment_eq_of_binds henables hbinds hpolicy
  have htemplate := Files.textOf_eq_ok_iff.2 hinput
  simp only [filled, hsettings, hstore, htemplate, fill, hfilled, orMessage, bind, Except.bind]

theorem filled_eq_of_failsFirst {message : String}
    (h : FailsFirst w environmentFile settingsFile message) :
    filled w environmentFile settingsFile = .error message := by
  cases h with
  | settings hfile h =>
    have hsettings := settings_eq_of_unloaded hfile h
    simp only [filled, hsettings, orMessage, bind, Except.bind]
    rfl
  | overrides hloaded h =>
    have hsettings := settings_eq_of_refused hloaded h
    simp only [filled, hsettings, orMessage, bind, Except.bind]
    rfl
  | environment hconfigured h =>
    have hsettings := settings_eq_of_configured hconfigured
    have hstore := environment_eq_of_failed h
    simp only [filled, hsettings, hstore, orMessage, bind, Except.bind]
    rfl
  | @input s entries hconfigured henables h =>
    have hsettings := settings_eq_of_configured hconfigured
    have hstore := environment_eq_of_binds henables
      (Store.binds_new_setManyJson s.missingVariables entries)
      (Store.policy_new_setManyJson s.missingVariables entries)
    have htemplate := Files.textOf_eq_of_not_encode h
    simp only [filled, hsettings, hstore, htemplate, orMessage, bind, Except.bind]
  | substitution hconfigured henables hbinds hpolicy hinput h =>
    have hsettings := settings_eq_of_configured hconfigured
    have hstore := environment_eq_of_binds henables hbinds hpolicy
    have htemplate := Files.textOf_eq_ok_iff.2 hinput
    simp only [filled, hsettings, hstore, htemplate, fill, h, orMessage, bind, Except.bind]
    rfl

theorem configured_or_failsFirst : (∃ s, Configured w settingsFile s) ∨
    ∃ message, FailsFirst w environmentFile settingsFile message := by
  rcases exists_loaded w settingsFile with ⟨loaded, hloaded⟩ | ⟨path, e, hfile, h⟩
  · cases happly : w.overrides.apply loaded with
    | ok s => exact .inl ⟨s, loaded, hloaded, happly⟩
    | error e => exact .inr ⟨_, .overrides hloaded happly⟩
  · exact .inr ⟨_, .settings hfile h⟩

theorem Configured.enables_or_failsFirst {s : Settings} (hconfigured : Configured w settingsFile s) :
    (∃ entries, EnvironmentFile.Enables w.files environmentFile.toList entries) ∨
      ∃ message, FailsFirst w environmentFile settingsFile message := by
  rcases hload : EnvironmentFile.load w.files environmentFile.toList (.new s.missingVariables)
    with ⟨store, e | n⟩
  · exact .inr ⟨_, .environment hconfigured (congrArg Prod.snd hload)⟩
  · obtain ⟨entries, henables, -, -⟩ := EnvironmentFile.load_eq_ok_iff.1 hload
    exact .inl ⟨entries, henables⟩

variable (w environmentFile settingsFile) in
theorem succeeds_or_failsFirst : (∃ text, Succeeds w environmentFile settingsFile text) ∨
    ∃ message, FailsFirst w environmentFile settingsFile message := by
  rcases configured_or_failsFirst with ⟨s, hconfigured⟩ | hfails
  case inr => exact .inr hfails
  rcases hconfigured.enables_or_failsFirst with ⟨entries, henables⟩ | hfails
  case inr => exact .inr hfails
  by_cases hinput : ∃ template, w.input = Text.encode template
  case neg => exact .inr ⟨_, .input hconfigured henables fun template h => hinput ⟨template, h⟩⟩
  obtain ⟨template, htemplate⟩ := hinput
  have hbinds := Store.binds_new_setManyJson s.missingVariables entries
  have hpolicy := Store.policy_new_setManyJson s.missingVariables entries
  generalize (Store.new s.missingVariables).setManyJson entries = store at hbinds hpolicy
  cases hfilled : (store.substitute template).outcome with
  | ok text => exact .inl ⟨text, hconfigured, henables, hbinds, hpolicy, htemplate, hfilled⟩
  | error e =>
    exact .inr ⟨_, .substitution hconfigured henables hbinds hpolicy htemplate hfilled⟩

theorem run_eq_report (environmentFile : String) (settingsFile : Option String) :
    run w (environmentFile :: settingsFile.toList) = report w environmentFile settingsFile := by
  cases settingsFile with
  | none => rfl
  | some path => rfl

theorem run_eq_usage {arguments : List String}
    (h : arguments.length ≠ 1 ∧ arguments.length ≠ 2) : run w arguments = ⟨2, "", usage⟩ := by
  match arguments with
  | [] => rfl
  | [_] => exact absurd rfl h.1
  | [_, _] => exact absurd rfl h.2
  | _ :: _ :: _ :: _ => rfl

theorem report_eq_of_succeeds {text : String} (h : Succeeds w environmentFile settingsFile text) :
    report w environmentFile settingsFile = ⟨0, text, ""⟩ := by
  rw [report, filled_eq_of_succeeds h]

theorem report_eq_of_failsFirst {message : String}
    (h : FailsFirst w environmentFile settingsFile message) :
    report w environmentFile settingsFile = ⟨1, "", mark ++ message ++ "\n"⟩ := by
  rw [report, filled_eq_of_failsFirst h]

theorem report_eq_iff_succeeds {text : String} :
    report w environmentFile settingsFile = ⟨0, text, ""⟩ ↔
      Succeeds w environmentFile settingsFile text := by
  refine ⟨fun h => ?_, report_eq_of_succeeds⟩
  rcases succeeds_or_failsFirst w environmentFile settingsFile with
    ⟨other, hother⟩ | ⟨message, hmessage⟩
  · rw [report_eq_of_succeeds hother] at h
    cases h
    exact hother
  · rw [report_eq_of_failsFirst hmessage] at h
    cases congrArg Report.exitCode h

theorem report_eq_iff_failsFirst {message : String} :
    report w environmentFile settingsFile = ⟨1, "", mark ++ message ++ "\n"⟩ ↔
      FailsFirst w environmentFile settingsFile message := by
  refine ⟨fun h => ?_, report_eq_of_failsFirst⟩
  rcases succeeds_or_failsFirst w environmentFile settingsFile with ⟨text, htext⟩ | ⟨other, hother⟩
  · rw [report_eq_of_succeeds htext] at h
    cases congrArg Report.exitCode h
  · rw [report_eq_of_failsFirst hother] at h
    have herrors : mark ++ other ++ "\n" = mark ++ message ++ "\n" := congrArg Report.errors h
    have hsame : other = message := by
      rw [← String.toList_inj] at herrors ⊢
      simpa using herrors
    rwa [← hsame]

theorem exitCode_report_eq_zero_iff :
    (report w environmentFile settingsFile).exitCode = 0 ↔
      ∃ text, Succeeds w environmentFile settingsFile text := by
  constructor
  · intro h
    rcases succeeds_or_failsFirst w environmentFile settingsFile with hsucceeds | ⟨message, hfails⟩
    · exact hsucceeds
    · rw [report_eq_of_failsFirst hfails] at h
      cases h
  · rintro ⟨text, htext⟩
    rw [report_eq_of_succeeds htext]

theorem exitCode_report_ne_two (w : Surroundings) (environmentFile : String)
    (settingsFile : Option String) : (report w environmentFile settingsFile).exitCode ≠ 2 := by
  rcases succeeds_or_failsFirst w environmentFile settingsFile with ⟨text, h⟩ | ⟨message, h⟩
  · rw [report_eq_of_succeeds h]
    exact (by decide : (0 : UInt8) ≠ 2)
  · rw [report_eq_of_failsFirst h]
    exact (by decide : (1 : UInt8) ≠ 2)

/-- One or two arguments name the environment file and maybe a settings file. -/
theorem exists_files_of_length {arguments : List String}
    (h : ¬(arguments.length ≠ 1 ∧ arguments.length ≠ 2)) :
    ∃ environmentFile settingsFile, arguments = environmentFile :: Option.toList settingsFile := by
  match arguments with
  | [] => exact absurd ⟨nofun, nofun⟩ h
  | [environmentFile] => exact ⟨environmentFile, none, rfl⟩
  | [environmentFile, settingsFile] => exact ⟨environmentFile, some settingsFile, rfl⟩
  | _ :: _ :: _ :: rest =>
    refine absurd ⟨?_, ?_⟩ h
    · simp
    · simp

/-- The command exits with 2 and writes nothing unless it has one or two arguments. With these it
exits with 0 exactly when all stages succeed, and then writes the filled template. When a stage
fails, it exits with 1, writes nothing and reports the message of the first stage that does. -/
theorem run_reports_first_failure (w : Surroundings) (arguments : List String) :
    ((run w arguments).exitCode = 2 ↔ arguments.length ≠ 1 ∧ arguments.length ≠ 2) ∧
    ((run w arguments).exitCode = 2 → (run w arguments).output = "") ∧
    ∀ environmentFile settingsFile, arguments = environmentFile :: Option.toList settingsFile →
      ((run w arguments).exitCode = 0 ↔ ∃ text, Succeeds w environmentFile settingsFile text) ∧
      (∀ text, run w arguments = ⟨0, text, ""⟩ ↔ Succeeds w environmentFile settingsFile text) ∧
      (∀ message, run w arguments = ⟨1, "", mark ++ message ++ "\n"⟩ ↔
        FailsFirst w environmentFile settingsFile message) ∧
      ((∃ text, Succeeds w environmentFile settingsFile text) ∨
        ∃ message, FailsFirst w environmentFile settingsFile message) := by
  have hlength : (run w arguments).exitCode = 2 →
      arguments.length ≠ 1 ∧ arguments.length ≠ 2 := by
    intro h
    by_contra hfiles
    obtain ⟨environmentFile, settingsFile, rfl⟩ := exists_files_of_length hfiles
    rw [run_eq_report] at h
    exact exitCode_report_ne_two w environmentFile settingsFile h
  refine ⟨⟨hlength, fun h => ?_⟩, fun h => ?_, ?_⟩
  · rw [run_eq_usage h]
  · rw [run_eq_usage (hlength h)]
  · rintro environmentFile settingsFile rfl
    rw [run_eq_report]
    exact ⟨exitCode_report_eq_zero_iff, fun text => report_eq_iff_succeeds,
      fun message => report_eq_iff_failsFirst,
      succeeds_or_failsFirst w environmentFile settingsFile⟩

end Resolve

end ApiSuite
