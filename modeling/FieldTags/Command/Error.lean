import FieldTags.Display.Format
import FieldTags.Project.Glob
import FieldTags.Project.Workspace

/-!
# Errors of commands

A command fails because of a path, because of what a file or an argument holds, or because a value
cannot be shown. Only the last is a fault of the program rather than of its input, and it has an exit
code of its own.
-/

namespace FieldTags

/-- Why a command fails. -/
inductive CommandError where
  | noSuchPath (path : String)
  | invalidPattern (pattern : Glob.InvalidPattern)
  | noTagFiles (path : String)
  /-- There is not exactly one tag file. -/
  | notSingle (count : Nat) (path : String)
  | unreadable (path : String) (reason : FileError)
  | unwritable (path : String) (reason : FileError)
  /-- The text of an argument, or of the file that it names, is no JSON text. -/
  | invalidJson (argument : String)
  /-- A tag file holds no rows. -/
  | invalidTagFile (path : String)
  /-- A tag file holds the envelope of a failure. -/
  | rejectedTagFile (path message : String)
  /-- Permissions are no list of texts. -/
  | invalidPermissions
  | format (error : FormatError)
  deriving DecidableEq

def CommandError.message : CommandError → String
  | .noSuchPath path => "Path does not exist: " ++ path
  | .invalidPattern invalid =>
    "Invalid glob pattern '" ++ invalid.pattern ++ "': " ++ invalid.error.message
  | .noTagFiles path => "No tag files (*.tags.json) found at: " ++ path
  | .notSingle count path =>
    "Expected a single tag file, found " ++ toString count ++ " at: " ++ path
  | .unreadable path reason => "Failed to read " ++ path ++ ": " ++ reason.message
  | .unwritable path reason => "Failed to write " ++ path ++ ": " ++ reason.message
  | .invalidJson argument => "Invalid JSON in " ++ argument
  | .invalidTagFile path => "Invalid tag file " ++ path
  | .rejectedTagFile path message => path ++ ": " ++ message
  | .invalidPermissions => "Permissions must be an array of strings"
  | .format .timeOutOfRange => "A time is out of range"
  | .format .tooManyDecimals => "A number has too many decimals"

def CommandError.code : CommandError → Nat
  | .format _ => 101
  | _ => 1

end FieldTags
