import ApiSuite.Text.Utf8

/-! # Files

All that the library asks of a file system is whether a path is that of a file, and what reading the
file at a path gives. A file can be there and fail to be read.
-/
namespace ApiSuite

inductive FileError where
  | notFound
  | notDirectory
  | isDirectory
  | nameTooLong
  | containsNul
  | denied
  | notText
  | other (reason : String)
  deriving DecidableEq

def FileError.message : FileError → String
  | notFound => "No such file or directory (os error 2)"
  | notDirectory => "Not a directory (os error 20)"
  | isDirectory => "Is a directory (os error 21)"
  | nameTooLong => "File name too long (os error 36)"
  | containsNul => "file name contained an unexpected NUL byte"
  | denied => "Permission denied (os error 13)"
  | notText => "stream did not contain valid UTF-8"
  | other reason => reason

structure Files where
  isFile : List Char → Bool
  read : List Char → Except FileError (List UInt8)

namespace Files

variable (files : Files)

def textOf (bytes : List UInt8) : Except FileError String :=
  match Text.toText bytes with
  | .ok text => .ok text
  | .error _ => .error .notText

def readText (path : List Char) : Except FileError String := do
  textOf (← files.read path)

end Files

end ApiSuite
