import FieldTags.Button.Visibility
import FieldTags.Check.Lint
import FieldTags.Check.Validation
import FieldTags.Display.Cell
import FieldTags.Json.Printer
import FieldTags.Json.Reader

/-!
# Calls from a host program

A program that hosts the library hands over texts, most of them JSON, and gets a JSON text back: an
envelope with data or with an error. A call is read from its texts, the first unreadable one being
the error, and is then performed. Where an input may be left out, a blank text leaves it out.
-/

namespace FieldTags

/-- An input of a call that is given as JSON text. -/
inductive HostInput where
  | rows
  | context
  | row
  | value
  | settings
  | options
  | config
  | permissions
  | lintConfig
  deriving DecidableEq

/-- The name of an input in errors. -/
def HostInput.name : HostInput → String
  | .rows => "rows"
  | .context => "context"
  | .row => "row"
  | .value => "value"
  | .settings => "settings"
  | .options => "options"
  | .config => "config"
  | .permissions => "permissions"
  | .lintConfig => "lint config"

/-- Why a call gives no data. -/
inductive HostError where
  | invalid (input : HostInput)
  | format (error : FormatError)
  deriving DecidableEq

def HostError.message : HostError → String
  | .invalid input => "Invalid " ++ input.name ++ " JSON"
  | .format _ => "Internal panic"

/-- How the related items of a row are to be shown. -/
structure RelationOptions where
  path : Option String
  /-- The path within an item. -/
  itemPath : Option String
  mode : Option String
  model : String
  deriving DecidableEq

namespace RelationOptions

def default : RelationOptions := ⟨none, none, none, ""⟩

/-- The mode that the options name, which is flat unless they name one of the five. -/
def relationMode (options : RelationOptions) : RelationMode :=
  (options.mode.bind RelationMode.ofName?).getD .flat

def ofDocument? (document : JsonDocument) : Option RelationOptions := do
  let r ← JsonDocument.Record.of? ["path", "pathItem", "mode", "model"] document
  return {
    path := ← r.defaulted "path" none (JsonDocument.nullable? JsonDocument.string?)
    itemPath := ← r.defaulted "pathItem" none (JsonDocument.nullable? JsonDocument.string?)
    mode := ← r.defaulted "mode" none (JsonDocument.nullable? JsonDocument.string?)
    model := ← r.defaulted "model" "" JsonDocument.string? }

end RelationOptions

/-- A call whose inputs have been read. -/
inductive HostCall where
  | parseTag (tag : String)
  | assemble (model : String) (rows : List TagRow)
  /-- This configuration and all findings about it and its rows. -/
  | validate (model : String) (rows : List TagRow)
  | evaluate (template : String) (context : Json)
  | evaluateCondition (condition : String) (row : Option Json)
  | formatValue (value : Option Json) (spec : String) (settings : RenderSettings)
  | renderRelation (row : Json) (options : RelationOptions) (settings : RenderSettings)
  | visibleButtons (config : ModelConfig) (permissions : PermissionSet) (row : Option Json)
  | lint (model : String) (rows : List TagRow) (levels : LintConfig)

namespace HostCall

/-! ## Reading -/

def requiredInput {α : Type} (input : HostInput) (ofDocument? : JsonDocument → Option α) (text : String) :
    Except HostError α :=
  match (Json.readDocument text).bind ofDocument? with
  | some value => .ok value
  | none => .error (.invalid input)

def optionalInput {α : Type} (input : HostInput) (default : α) (ofDocument? : JsonDocument → Option α)
    (text : String) : Except HostError α :=
  if Text.allBlank text then .ok default else requiredInput input ofDocument? text

def readRows (text : String) : Except HostError (List TagRow) :=
  requiredInput .rows (JsonDocument.list? TagRow.ofDocument?) text

/-- A free value that may be left out. -/
def readFreeValue (input : HostInput) (text : String) : Except HostError (Option Json) :=
  optionalInput input none (JsonDocument.nullable? JsonDocument.freeValue?) text

def readSettings (text : String) : Except HostError RenderSettings :=
  optionalInput .settings .default RenderSettings.ofDocument? text

def readAssemble (model rows : String) : Except HostError HostCall := do
  return .assemble model (← readRows rows)

def readValidate (model rows : String) : Except HostError HostCall := do
  return .validate model (← readRows rows)

def readEvaluate (template context : String) : Except HostError HostCall := do
  return .evaluate template (← optionalInput .context .null JsonDocument.freeValue? context)

def readCondition (condition row : String) : Except HostError HostCall := do
  return .evaluateCondition condition (← readFreeValue .row row)

def readFormatValue (value spec settings : String) : Except HostError HostCall := do
  return .formatValue (← readFreeValue .value value) spec (← readSettings settings)

def readRenderRelation (row options settings : String) : Except HostError HostCall := do
  return .renderRelation (← requiredInput .row JsonDocument.freeValue? row)
    (← optionalInput .options .default RelationOptions.ofDocument? options) (← readSettings settings)

def readVisibleButtons (config permissions row : String) : Except HostError HostCall := do
  return .visibleButtons (← requiredInput .config ModelConfig.ofDocument? config)
    (← requiredInput .permissions PermissionSet.ofDocument? permissions) (← readFreeValue .row row)

def readLint (model rows levels : String) : Except HostError HostCall := do
  return .lint model (← readRows rows) (← optionalInput .lintConfig .default LintConfig.ofDocument? levels)

/-! ## Performing -/

/-- A configuration and all findings about it and the rows that it was assembled from. -/
def validation (model : String) (rows : List TagRow) : Json :=
  let config := ModelConfig.assemble model rows
  let report := config.validate
  .object [("config", config.toJson), ("errors", .array (report.errors.map Finding.toJson)),
    ("warnings",
      .array (((TagRow.validate model rows).warnings ++ report.warnings).map Finding.toJson))]

def outcome : HostCall → Except HostError Json
  | .parseTag tag => .ok (Tag.toJson (Tag.read tag))
  | .assemble model rows => .ok (ModelConfig.assemble model rows).toJson
  | .validate model rows => .ok (validation model rows)
  | .evaluate template context =>
    .ok ((Template.evaluate (.ofJson context) template).getD .null)
  | .evaluateCondition condition row => .ok (.bool (Condition.holds condition row))
  | .formatValue value spec settings =>
    match (Formatter.ofSettings settings).formatValue value (some spec) with
    | .ok display => .ok display.toJson
    | .error e => .error (.format e)
  | .renderRelation row options settings =>
    .ok ((Formatter.ofSettings settings).showRelation row options.path options.itemPath
      options.relationMode options.model).toJson
  | .visibleButtons config permissions row =>
    .ok (.array ((config.visibleButtons permissions row).map ButtonAction.toJson))
  | .lint model rows levels =>
    .ok (.array ((levels.lint (.assemble model rows)).map LintFinding.toJson))

def notes : HostCall → List Note
  | .parseTag tag => ModelConfig.tagNotes tag
  | .assemble model rows => ModelConfig.assembleNotes model rows
  | .validate model rows =>
    ModelConfig.assembleNotes model rows ++ rows.flatMap fun row ↦ ModelConfig.tagNotes row.tag
  | .evaluate template context => Template.notes (.ofJson context) template
  | .evaluateCondition condition row => Condition.notes condition row
  | .formatValue value spec settings =>
    (Formatter.ofSettings settings).formatNotes value (some spec)
  | .renderRelation _ _ _ => []
  | .visibleButtons config permissions row => config.visibleButtonsNotes permissions row
  | .lint model rows _ => ModelConfig.assembleNotes model rows

end HostCall

/-! ## Replies -/

/-- The envelope of data or an error. -/
def hostEnvelope : Except HostError Json → Json
  | .ok data => .object [("success", .bool true), ("data", data)]
  | .error e => .object [("success", .bool false), ("error", .string e.message)]

/-- The reply to a call; that to a call for lint findings is in canonical form. -/
def HostCall.reply (call : HostCall) : String :=
  match call with
  | .lint _ _ _ => (hostEnvelope call.outcome).canonical.compact
  | _ => (hostEnvelope call.outcome).compact

end FieldTags
