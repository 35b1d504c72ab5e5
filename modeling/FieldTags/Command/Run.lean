import FieldTags.Button.Visibility
import FieldTags.Command.Line
import FieldTags.Command.Report
import FieldTags.Command.Sources
import FieldTags.Display.Table

/-!
# Running commands

A command reads what it needs from a workspace and ends with an exit code, an output and messages on
the side. It fails with the code of its error, and with code 2 if its command line cannot be read.
-/

namespace FieldTags

/-- How a command ends. -/
structure Outcome where
  code : Nat
  output : String
  /-- The messages on the side. -/
  messages : String
  deriving DecidableEq

namespace Outcome

def printed (text : String) : Outcome :=
  ⟨0, text ++ "\n", ""⟩

def failed (e : CommandError) : Outcome :=
  ⟨e.code, "", "Error: " ++ e.message ++ "\n"⟩

/-- The end of a command line that cannot be read. -/
def unreadableLine : Outcome :=
  ⟨2, "", "Usage: uitag <tag|parse|validate|lint|eval|render|buttons> [ARGUMENTS]\n"⟩

end Outcome

namespace Command

variable {m : Type → Type} [Monad m]

def tagJson (tag : String) : TagForm → Json
  | .raw => Tag.toJson (Tag.read tag)
  | .field => (FieldConfig.ofTag (Tag.read tag)).toJson
  | .model => (ModelSettings.ofTag (Tag.read tag)).toJson

/-- The JSON form of the configurations in tag files; that of a single one stands alone. -/
def configsJson (files : List TagFile) : Json :=
  match files.map fun file ↦ (ModelConfig.assemble file.model file.rows).toJson with
  | [config] => config
  | configs => .array configs

/-- Shows configurations, or writes them to a file. -/
def runParse (w : Workspace m) (path : String) (output : Option String) :
    ExceptT CommandError m Outcome := do
  let text := (configsJson (← w.tagFiles path)).indented
  match output with
  | none => return .printed text
  | some target =>
    match ← w.write target text with
    | .ok _ => return ⟨0, "", "Written to " ++ target ++ "\n"⟩
    | .error reason => throw (.unwritable target reason)

/-- Reports what is wrong with configurations; errors among it make the exit code 1. -/
def runValidate (w : Workspace m) (path format : String) : ExceptT CommandError m Outcome := do
  let files ← w.tagFiles path
  let findings := files.flatMap FileReport.validation
  let text :=
    if format = "json" then FileReport.validationJson findings files.length
    else FileReport.validationText findings files.length
  return { Outcome.printed text with code := if FileReport.errorCount findings = 0 then 0 else 1 }

def runLint (w : Workspace m) (path format : String) : ExceptT CommandError m Outcome := do
  let files ← w.tagFiles path
  let config ← w.projectConfig path
  let findings := files.flatMap (FileReport.lint config.lint)
  return .printed (
    if format = "json" then FileReport.lintJson findings files.length
    else if format = "sarif" then FileReport.interchange findings
    else FileReport.lintText findings files.length)

def conditionWarning (condition : String) : String :=
  let source := Condition.source (Text.trim condition)
  if Text.allBlank source then ""
  else
    match Expression.compile source with
    | .ok _ => ""
    | .error e => "warning: condition does not compile: " ++ e.message ++ "\n"

def runEval (w : Workspace m) (expression : String) (context : Option String)
    (condition : Bool) : ExceptT CommandError m Outcome := do
  let context ← context.mapM w.jsonArgument
  if condition then
    let holds := Condition.holds expression context
    return { Outcome.printed (if holds then "true" else "false") with
      messages := conditionWarning expression }
  else
    match Template.evaluate (.ofJson (context.getD (.object []))) expression with
    | some value => return .printed value.indented
    | none => return .printed "undefined"

/-- The rows that a JSON value holds: its items, or itself. -/
def rowsOf : Json → List Json
  | .array rows => rows
  | row => [row]

/-- The result of formatting, in which an error is one of the command. -/
def formatted {α : Type} : Except FormatError α → ExceptT CommandError m α
  | .ok value => pure value
  | .error e => throw (.format e)

def runRender (w : Workspace m) (path rows format : String) :
    ExceptT CommandError m Outcome := do
  let config ← w.singleConfig path
  let f := Formatter.ofSettings (← w.projectConfig path).render
  let rows := rowsOf (← w.jsonArgument rows)
  if format = "json" then
    return .printed (Json.array (← formatted (rows.mapM (f.rowJson config)))).indented
  else return .printed (← formatted (f.tableText config rows))

def runButtons (w : Workspace m) (path permissions : String) (row : Option String) :
    ExceptT CommandError m Outcome := do
  let config ← w.singleConfig path
  match PermissionSet.ofDocument? (.ofValue (← w.jsonArgument permissions)) with
  | none => throw .invalidPermissions
  | some permissions =>
    let row ← row.mapM w.jsonArgument
    return .printed
      (Json.array ((config.visibleButtons permissions row).map ButtonAction.toJson)).indented

def run (w : Workspace m) : Command → ExceptT CommandError m Outcome
  | .tag source form => return .printed (tagJson source form).indented
  | .parse path output => runParse w path output
  | .validate path format => runValidate w path format
  | .lint path format => runLint w path format
  | .eval expression context condition => runEval w expression context condition
  | .render path rows format => runRender w path rows format
  | .buttons path permissions row => runButtons w path permissions row

def runLine (w : Workspace m) (line : List String) : m Outcome := do
  match read? line with
  | none => return .unreadableLine
  | some command =>
    match ← (command.run w).run with
    | .ok outcome => return outcome
    | .error e => return .failed e

end Command

end FieldTags
