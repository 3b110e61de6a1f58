import ApiSuite.Files.Basic
import ApiSuite.Files.Path

/-! # File trees

A file tree says what stands at each sequence of names below the root. A path is followed from the
root or from the working directory, name by name; it can end early at a name that is missing or too
long, or that stands below a file.
-/
namespace ApiSuite

inductive Node where
  | directory
  | file (bytes : List UInt8)
  deriving DecidableEq

/-- What stands below the root, which is the empty sequence of names, and the place that relative
paths start from. -/
structure FileTree where
  node? : List (List Char) → Option Node
  workingDirectory : List (List Char)

namespace FileTree

def maxName : Nat := 255

def maxPath : Nat := 4095

def byteCount (cs : List Char) : Nat := cs.foldl (fun n c => n + c.utf8Size) 0

variable (t : FileTree)

def walk (place : List (List Char)) : List (List Char) → Except FileError (List (List Char))
  | [] => .ok place
  | name :: rest =>
    match t.node? place with
    | none => .error .notFound
    | some (.file _) => .error .notDirectory
    | some .directory =>
      if Path.isIdle name then walk place rest
      else if name = ['.', '.'] then walk place.dropLast rest
      else if maxName < byteCount name then .error .nameTooLong
      else if (t.node? (place ++ [name])).isNone then .error .notFound
      else walk (place ++ [name]) rest

def find (path : List Char) : Except FileError Node :=
  if path.contains (Char.ofNat 0) then .error .containsNul
  else if path.isEmpty then .error .notFound
  else if maxPath < byteCount path then .error .nameTooLong
  else
    let start := if path.head? = some '/' then [] else t.workingDirectory
    match t.walk start (Path.names path) with
    | .error e => .error e
    | .ok place => match t.node? place with
      | none => .error .notFound
      | some node => .ok node

def isFile (path : List Char) : Bool :=
  match t.find path with
  | .ok (.file _) => true
  | _ => false

def read (path : List Char) : Except FileError (List UInt8) :=
  match t.find path with
  | .ok (.file bytes) => .ok bytes
  | .ok .directory => .error .isDirectory
  | .error e => .error e

def files : Files := ⟨t.isFile, t.read⟩

def workingPath : List Char := '/' :: Path.ofNames t.workingDirectory

/-- The tree of some files and directories and of all directories above them. -/
def ofEntries (files : List (List (List Char) × List UInt8)) (directories : List (List (List Char)))
    (workingDirectory : List (List Char)) : FileTree where
  node? place :=
    match files.find? fun f => f.1 == place with
    | some f => some (.file f.2)
    | none =>
      if place.isEmpty || (directories ++ files.map Prod.fst).any fun d => place.isPrefixOf d
      then some .directory else none
  workingDirectory

end FileTree

end ApiSuite
