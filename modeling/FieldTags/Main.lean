import FieldTags.Command.Run

/-!
# The command line program

The workspace of the program is the working directory. What a path leads to is found out by reading
it. The files below the working directory are listed on standard input, one path on a line, and are
asked for only if a command is given a directory.
-/

namespace FieldTags.Program

def fileError : IO.Error → FileError
  | .noFileOrDirectory _ _ _ => .missing
  | .inappropriateType _ 21 _ => .isDirectory
  | .inappropriateType _ _ _ => .notDirectory
  | .invalidArgument _ 36 _ => .nameTooLong
  | e => .other (toString e)

def readText (path : String) : IO (Except FileError String) := do
  match ← (IO.FS.readFile path).toBaseIO with
  | .ok text => return .ok text
  | .error e => return .error (fileError e)

def writeText (path text : String) : IO (Except FileError Unit) := do
  match ← (IO.FS.writeFile path text).toBaseIO with
  | .ok _ => return .ok ()
  | .error e => return .error (fileError e)

def pathKind (path : String) : IO (Option FileKind) := do
  match ← readText path with
  | .ok _ => return some .file
  | .error .isDirectory => return some .directory
  | .error _ => return none

/-- The lines of a stream up to its end. -/
partial def readLines (input : IO.FS.Stream) : IO (List String) := do
  let line ← input.getLine
  if line.isEmpty then return []
  return Text.trim line :: (← readLines input)

/-- The files that standard input lists. -/
def listedFiles : IO (List (List String)) := do
  let lines ← readLines (← IO.getStdin)
  return (lines.map Path.components).filter (· ≠ [])

def workspace : Workspace IO := ⟨pathKind, listedFiles, readText, writeText⟩

end FieldTags.Program

/-- Runs the command line and ends with its exit code. -/
def main (line : List String) : IO UInt32 := do
  let outcome ← FieldTags.Command.runLine FieldTags.Program.workspace line
  IO.print outcome.output
  IO.eprint outcome.messages
  return outcome.code.toUInt32
