import ApiSuite.Resolve

/-! # The command line

Reads the two files that the arguments name, the process variables and the standard input, and does
what the command reports.
-/
namespace ApiSuite.Main

/-- A wrong kind of file is named when it stands on the way to the path, and is a directory without
a name when the path leads to it. Other errors are told apart by their numbers, which some calls
give with a negative sign. -/
def fileErrorOf (e : IO.Error) : FileError :=
  match e with
  | .noFileOrDirectory _ _ _ => .notFound
  | .inappropriateType (some _) _ _ => .notDirectory
  | .inappropriateType none _ _ => .isDirectory
  | .invalidArgument _ code _ => numbered code
  | .permissionDenied _ code _ => numbered code
  | .hardwareFault code _ => numbered code
  | _ => .other (toString e)
where
  numbered (code : UInt32) : FileError :=
    match min code.toNat (0 - code).toNat with
    | 13 => .denied
    | 36 => .nameTooLong
    | 1 => .other "Operation not permitted (os error 1)"
    | 5 => .other "Input/output error (os error 5)"
    | 40 => .other "Too many levels of symbolic links (os error 40)"
    | _ => .other (toString e)

/-- A path that leads somewhere is that of a file unless it leads on to what is behind a slash. -/
def isFile (path : String) : IO Bool := do
  if path.toList.contains (Char.ofNat 0) then return false
  try discard <| IO.FS.realPath path
  catch _ => return false
  try
    discard <| IO.FS.realPath (path ++ "/.")
    return false
  catch
    | .permissionDenied _ _ _ => return false
    | _ => return true

def readFile (path : String) : IO (Except FileError (List UInt8)) := do
  if path.toList.contains (Char.ofNat 0) then return .error .containsNul
  try
    let content ← IO.FS.readBinFile path
    return .ok content.toList
  catch e => return .error (fileErrorOf e)

def readFiles (paths : List String) : IO Files := do
  let read ← paths.mapM fun path => do
    return (path.toList, ← isFile path, ← readFile path)
  let find (path : List Char) := read.find? fun f => f.1 == path
  return {
    isFile path := (find path).any fun f => f.2.1
    read path := match find path with
      | some (_, _, content) => content
      | none => .error .notFound }

def chunk : USize := 65536

partial def readAll (input : IO.FS.Stream) (read : ByteArray) : IO (List UInt8) := do
  let more ← input.read chunk
  if more.isEmpty then return read.toList else readAll input (read ++ more)

def overrides : IO Overrides := do
  return ⟨← IO.getEnv Overrides.serverVariable, ← IO.getEnv Overrides.timeoutVariable,
    ← IO.getEnv Overrides.missingVariablesVariable⟩

def standardInput (arguments : List String) : IO (List UInt8) := do
  if arguments.length = 1 || arguments.length = 2 then readAll (← IO.getStdin) .empty
  else return []

end ApiSuite.Main

open ApiSuite in
def main (arguments : List String) : IO UInt32 := do
  let files ← Main.readFiles arguments
  let input ← Main.standardInput arguments
  let report := Resolve.run ⟨files, ← Main.overrides, input⟩ arguments
  (← IO.getStderr).putStr report.errors
  (← IO.getStdout).putStr report.output
  (← IO.getStdout).flush
  return report.exitCode.toUInt32
