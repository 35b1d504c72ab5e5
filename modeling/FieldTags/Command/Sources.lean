import FieldTags.Command.Error
import FieldTags.Json.Reader
import FieldTags.Project.Config
import FieldTags.Project.Glob
import FieldTags.Project.TagFile

/-!
# What commands read

A command works on the tag files at a path: the file itself, or the files in a directory that the
settings of the project name. JSON is given in an argument itself, where it starts with a brace or
bracket, or in a file that the argument names.
-/

namespace FieldTags

namespace Workspace

variable {m : Type → Type} [Monad m]

/-- The settings of a project for a path: those in the directory, or in that of the file. -/
def projectConfig? (w : Workspace m) (path : String) : m (Option ProjectConfig) := do
  let directory := if (← w.kind path) = some .directory then path else Path.parent path
  match ← w.read (Path.join directory ProjectConfig.fileName) with
  | .ok text => return ProjectConfig.read text
  | .error _ => return none

/-- The settings of a project for a path, or those in use where there are none. -/
def projectConfig (w : Workspace m) (path : String) : m ProjectConfig := do
  return (← w.projectConfig? path).getD .default

def sourcePatterns (config : Option ProjectConfig) : List String :=
  match config.bind ProjectConfig.sources with
  | none | some [] => ["**/*" ++ TagFile.ending]
  | some patterns => patterns

def tagPaths (w : Workspace m) (path : String) : ExceptT CommandError m (List String) := do
  match ← w.kind path with
  | none => throw (.noSuchPath path)
  | some .file => return [path]
  | some .directory =>
    let patterns := sourcePatterns (← w.projectConfig? path)
    match Glob.sources (← w.files) path patterns with
    | .ok paths => return paths
    | .error invalid => throw (.invalidPattern invalid)

def tagFile (w : Workspace m) (path : String) : ExceptT CommandError m TagFile := do
  match ← w.read path with
  | .error reason => throw (.unreadable path reason)
  | .ok text =>
    match TagFile.readRows text with
    | .ok rows => return ⟨path, TagFile.modelName path, rows⟩
    | .error .malformed => throw (.invalidTagFile path)
    | .error e => throw (.rejectedTagFile path e.message)

/-- The tag files at a path, of which there has to be one. -/
def tagFiles (w : Workspace m) (path : String) : ExceptT CommandError m (List TagFile) := do
  match ← (← w.tagPaths path).mapM w.tagFile with
  | [] => throw (.noTagFiles path)
  | files => return files

def singleConfig (w : Workspace m) (path : String) : ExceptT CommandError m ModelConfig := do
  match ← w.tagFiles path with
  | [file] => return .assemble file.model file.rows
  | files => throw (.notSingle files.length path)

/-- Whether an argument is a JSON text itself. -/
def isInlineJson (argument : String) : Bool :=
  ((argument.toList.dropWhile Text.isBlank).head?).any fun c ↦ c = '{' || c = '['

/-- The text that an argument stands for. -/
def argumentText (w : Workspace m) (argument : String) : ExceptT CommandError m String := do
  if isInlineJson argument then return argument
  match ← w.read argument with
  | .ok text => return text
  | .error reason => throw (.unreadable argument reason)

def jsonArgument (w : Workspace m) (argument : String) : ExceptT CommandError m Json := do
  match Json.read (← w.argumentText argument) with
  | some value => return value
  | none => throw (.invalidJson argument)

end Workspace

end FieldTags
