import ApiSuite.Proofs.EnvironmentSeed
import ApiSuite.Proofs.PathParts
import Mathlib.Data.List.Chain
import Mathlib.Data.List.Find

/-! # The search for an environment file

The search goes up from a directory and takes the first file that it meets. What it finds depends on
which of its candidates are files and on nothing else, and what is loaded depends on the one file
that was found. A file that cannot be loaded ends the search nevertheless.
-/
namespace ApiSuite.EnvironmentFile

/-- The directories that a search goes through: the start, then the directory above each, three of
them or as many as there are. Each has the parts of the start but the last ones, and the empty path
is the last that is above a relative one. -/
structure Upward (start : List Char) (dirs : List (List Char)) : Prop where
  first : dirs.head? = some start
  above : dirs.IsChain fun d above => Path.parent? d = some above
  length_eq : dirs.length = min 3 (Path.height start) + 1
  parts_eq : ∀ k d, dirs[k]? = some d →
    d <+: start ∧ Path.parts d = (Path.parts start).take ((Path.parts start).length - k)
  last_of_relative : start.head? ≠ some '/' → Path.height start ≤ 3 → dirs.getLast? = some []

theorem head?_ancestors (n : Nat) (path : List Char) :
    (Path.ancestors n path).head? = some path := by
  cases n <;> rfl

theorem isChain_ancestors (n : Nat) (path : List Char) :
    (Path.ancestors n path).IsChain fun d above => Path.parent? d = some above := by
  induction n generalizing path with
  | zero => exact .singleton path
  | succ n ih =>
    rw [Path.ancestors]
    cases hparent : Path.parent? path with
    | none => exact .singleton path
    | some above =>
      refine (ih above).cons fun d hd => ?_
      rw [head?_ancestors] at hd
      rwa [← Option.some.inj hd]

theorem upward_ancestors (start : List Char) : Upward start (Path.ancestors searchDepth start) where
  first := head?_ancestors searchDepth start
  above := isChain_ancestors searchDepth start
  length_eq := Path.length_ancestors searchDepth start
  parts_eq _ _ := Path.ancestors_getElem?
  last_of_relative := Path.getLast?_ancestors

variable (files : Files)

def Bare (d : List Char) : Prop :=
  ∀ name ∈ fileNames, files.isFile (Path.child d name) = false

/-- The environment file of a directory. The hidden one comes first. -/
inductive Holds (d : List Char) : List Char → Prop
  | hidden (h : files.isFile (Path.child d ".harness-env.json".toList) = true) :
    Holds d (Path.child d ".harness-env.json".toList)
  | visible (hhidden : files.isFile (Path.child d ".harness-env.json".toList) = false)
    (h : files.isFile (Path.child d "harness.env.json".toList) = true) :
    Holds d (Path.child d "harness.env.json".toList)

def first? (d : List Char) : Option (List Char) :=
  (fileNames.map (Path.child d)).find? files.isFile

theorem first?_eq_none_iff {d : List Char} : first? files d = none ↔ Bare files d := by
  simp [first?, Bare]

theorem first?_eq_some_iff {d path : List Char} :
    first? files d = some path ↔ Holds files d path := by
  constructor
  · intro h
    rw [first?, fileNames, List.map_cons, List.find?_cons] at h
    split at h
    · rename_i hhidden
      obtain rfl := Option.some.inj h
      exact .hidden hhidden
    · rename_i hhidden
      rw [List.map_cons, List.find?_cons] at h
      split at h
      · rename_i hvisible
        obtain rfl := Option.some.inj h
        exact .visible hhidden hvisible
      · cases h
  · intro h
    cases h with
    | hidden h => rw [first?, fileNames, List.map_cons, List.find?_cons_of_pos h]
    | visible hhidden h =>
      rw [first?, fileNames, List.map_cons, List.find?_cons_of_neg (Bool.eq_false_iff.1 hhidden),
        List.map_cons, List.find?_cons_of_pos h]

theorem find_eq (start : List Char) :
    find files start = (Path.ancestors searchDepth start).findSome? (first? files) :=
  List.find?_flatMap

variable {files}

theorem find_eq_none_iff {start : List Char} :
    find files start = none ↔ ∀ d ∈ Path.ancestors searchDepth start, Bare files d := by
  simp only [find_eq, List.findSome?_eq_none_iff, first?_eq_none_iff]

theorem find_eq_some_iff {start path : List Char} :
    find files start = some path ↔ ∃ nearer d farther,
      Path.ancestors searchDepth start = nearer ++ d :: farther ∧ Holds files d path ∧
        ∀ n ∈ nearer, Bare files n := by
  simp only [find_eq, List.findSome?_eq_some_iff, first?_eq_none_iff, first?_eq_some_iff]

theorem find_congr {others : Files} {start : List Char}
    (h : ∀ d ∈ Path.ancestors searchDepth start, ∀ name ∈ fileNames,
      others.isFile (Path.child d name) = files.isFile (Path.child d name)) :
    find others start = find files start := by
  refine List.find?_congr fun path hpath => ?_
  obtain ⟨d, hd, hmem⟩ := List.mem_flatMap.1 hpath
  obtain ⟨name, hname, rfl⟩ := List.mem_map.1 hmem
  exact h d hd name hname

theorem isFile_of_find {start path : List Char} (h : find files start = some path) :
    files.isFile path = true :=
  List.find?_some h

theorem load_congr {others : Files} {path : List Char}
    (hfile : others.isFile path = files.isFile path) (hread : others.read path = files.read path)
    (s : Store) : load others path s = load files path s := by
  rw [load, load, read_eq, read_eq, hfile, hread]

theorem load_eq_of_isFile {path : List Char} (h : files.isFile path = true) (s : Store) :
    load files path s = match files.read path with
      | .error cause => (s, .error (.io cause.message))
      | .ok bytes => match Text.toText bytes with
        | .error _ => (s, .error (.io FileError.notText.message))
        | .ok text => match Json.parse text with
          | .error e => (s, .error (.parse e.message))
          | .ok raw => seed s raw := by
  rw [load, read_eq, if_neg (by simp [h])]
  cases files.read path with
  | error cause => rfl
  | ok bytes =>
    dsimp only
    cases Text.toText bytes with
    | error _ => rfl
    | ok text =>
      dsimp only
      cases Json.parse text <;> rfl

theorem discover_of_find {start path : List Char} (h : find files start = some path) (s : Store) :
    discover files start s = load files path s := by
  rw [discover, h]

theorem discover_of_not_find {start : List Char} (h : find files start = none) (s : Store) :
    discover files start s = (s, .ok 0) := by
  rw [discover, h]

theorem discover_keeps_store {start : List Char} {s : Store} {e : EnvironmentError}
    (h : (discover files start s).2 = .error e) : (discover files start s).1 = s := by
  cases hfind : find files start with
  | none => rw [discover_of_not_find hfind]
  | some path =>
    rw [discover_of_find hfind] at h ⊢
    exact load_keeps_store h

theorem discover_congr {others : Files} {start : List Char}
    (hfind : find others start = find files start)
    (hread : ∀ path, find files start = some path → others.read path = files.read path)
    (s : Store) : discover others start s = discover files start s := by
  cases h : find files start with
  | none => rw [discover_of_not_find h, discover_of_not_find (hfind.trans h)]
  | some path =>
    have hothers := hfind.trans h
    have hfile : others.isFile path = files.isFile path := by
      rw [isFile_of_find h, isFile_of_find hothers]
    rw [discover_of_find h, discover_of_find hothers, load_congr hfile (hread path h)]

theorem parts_candidate (d : List Char) {name : List Char} (h : name ∈ fileNames) :
    Path.parts (Path.child d name) = Path.parts d ++ [name] := by
  have hnames : ∀ name ∈ fileNames, '/' ∉ name ∧ Path.isIdle name = false := by decide
  exact Path.parts_child (hnames name h).1 (hnames name h).2

/-- The search goes through a directory and at most three above it, and finds the environment file
of the first one that has any. That file alone is loaded, and when it cannot be read, is no text or
is malformed, the error is that of this file and the store stays as it is. Without a file in any of
the directories nothing is loaded. No other file has a part in the result. -/
theorem discover_loads_nearest (files : Files) (start : List Char) (s : Store) :
    ∃ dirs, Upward start dirs ∧
      (∀ d ∈ dirs, ∀ name ∈ fileNames,
        Path.parts (Path.child d name) = Path.parts d ++ [name]) ∧
      (find files start = none ↔ ∀ d ∈ dirs, Bare files d) ∧
      (∀ path, find files start = some path ↔ ∃ nearer d farther,
        dirs = nearer ++ d :: farther ∧ Holds files d path ∧ ∀ n ∈ nearer, Bare files n) ∧
      (find files start = none → discover files start s = (s, .ok 0)) ∧
      (∀ path, find files start = some path →
        discover files start s = match files.read path with
          | .error cause => (s, .error (.io cause.message))
          | .ok bytes => match Text.toText bytes with
            | .error _ => (s, .error (.io FileError.notText.message))
            | .ok text => match Json.parse text with
              | .error e => (s, .error (.parse e.message))
              | .ok raw => seed s raw) ∧
      (∀ e, (discover files start s).2 = .error e → (discover files start s).1 = s) ∧
      ∀ others : Files,
        (∀ d ∈ dirs, ∀ name ∈ fileNames,
          others.isFile (Path.child d name) = files.isFile (Path.child d name)) →
        find others start = find files start ∧
          ((∀ path, find files start = some path → others.read path = files.read path) →
            discover others start s = discover files start s) := by
  refine ⟨Path.ancestors searchDepth start, upward_ancestors start,
    fun d _ name hname => parts_candidate d hname, find_eq_none_iff, fun _ => find_eq_some_iff,
    fun h => discover_of_not_find h s, fun path h => ?_, fun _ => discover_keeps_store,
    fun others hothers => ⟨find_congr hothers, fun hread => ?_⟩⟩
  · rw [discover_of_find h, load_eq_of_isFile (isFile_of_find h)]
  · exact discover_congr (find_congr hothers) hread s

/-- A file that cannot be read hides the ones behind it, which could be. -/
example (s : Store) :
    let hidden := ".harness-env.json".toList
    let files : Files := ⟨fun _ => true, fun path =>
      if path = hidden then .error .denied else .ok (Text.encode "\x7b\x7d")⟩
    discover files [] s = (s, .error (.io "Permission denied (os error 13)")) :=
  rfl

end ApiSuite.EnvironmentFile
