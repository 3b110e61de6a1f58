import ApiSuite.Text.Basic

/-! # Path texts

A path is a text with names between slashes. The directory above a path is read off its text alone:
the last name goes, together with the empty and dot names around it that lead nowhere, whatever is
behind the name in the file tree.
-/
namespace ApiSuite.Path

def names (path : List Char) : List (List Char) := Text.parts (· == '/') path

def ofNames : List (List Char) → List Char
  | [] => []
  | [name] => name
  | name :: rest => name ++ '/' :: ofNames rest

/-- An empty name or a dot stays in the directory before it. -/
def isIdle (name : List Char) : Bool := name.isEmpty || name == ['.']

/-- What a path starts from: the root, the dot that it opens with, or nothing. -/
def head (path : List Char) : List Char :=
  match path with
  | '/' :: _ => ['/']
  | ['.'] => ['.']
  | '.' :: '/' :: _ => ['.']
  | _ => []

/-- The directory above, unless the path is empty or the root. -/
def parent? (path : List Char) : Option (List Char) :=
  let start := head path
  match (names (path.drop start.length)).reverse.dropWhile isIdle with
  | _ :: above => some (start ++ ofNames (above.dropWhile isIdle).reverse)
  | [] => if start = ['.'] then some [] else none

def child (directory name : List Char) : List Char :=
  match directory.getLast? with
  | none => name
  | some '/' => directory ++ name
  | some _ => directory ++ '/' :: name

/-- A path and the directories above it, at most `n` of them. -/
def ancestors : Nat → List Char → List (List Char)
  | 0, path => [path]
  | n + 1, path =>
    path :: match parent? path with
      | none => []
      | some above => ancestors n above

end ApiSuite.Path
