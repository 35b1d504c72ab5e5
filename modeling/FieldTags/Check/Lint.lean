import FieldTags.Button.Permission
import FieldTags.Config.View

/-!
# Lint rules

What works but is probably not what the author of a configuration meant. Every rule has a severity
of its own; a level that is set for the rule switches it off or takes its place.
-/

namespace FieldTags

/-- How much a lint finding matters. -/
inductive LintSeverity where
  | error
  | warning
  | info
  deriving DecidableEq

namespace LintSeverity

def all : List LintSeverity := [.error, .warning, .info]

def name : LintSeverity → String
  | .error => "error"
  | .warning => "warning"
  | .info => "info"

def ofName? (s : String) : Option LintSeverity :=
  all.find? (·.name = s)

end LintSeverity

/-- What a configuration says about a rule. -/
inductive RuleLevel where
  | off
  | warn
  | error
  deriving DecidableEq

namespace RuleLevel

def all : List RuleLevel := [.off, .warn, .error]

def name : RuleLevel → String
  | .off => "off"
  | .warn => "warn"
  | .error => "error"

def ofName? (s : String) : Option RuleLevel :=
  all.find? (·.name = s)

/-- The severity that a level gives a rule; none if it switches the rule off. -/
def severity? : RuleLevel → Option LintSeverity
  | .off => none
  | .warn => some .warning
  | .error => some .error

end RuleLevel

/-- A lint finding. -/
structure LintFinding where
  rule : String
  severity : LintSeverity
  model : String
  /-- The field, if it is about one. -/
  field : Option String
  message : String
  deriving DecidableEq

namespace LintFinding

def toJson (f : LintFinding) : Json :=
  .ofOptionalMembers [("rule", some (.string f.rule)), ("severity", some (.string f.severity.name)),
    ("model", some (.string f.model)), ("field", f.field.map .string),
    ("message", some (.string f.message))]

def ofDocument? (document : JsonDocument) : Option LintFinding := do
  let r ← JsonDocument.Record.of? ["rule", "severity", "model", "field", "message"] document
  return {
    rule := ← r.required "rule" JsonDocument.string?
    severity := ← r.required "severity" (JsonDocument.choice? LintSeverity.ofName?)
    model := ← r.required "model" JsonDocument.string?
    field := ← r.optional "field" JsonDocument.string?
    message := ← r.required "message" JsonDocument.string? }

end LintFinding

/-- The levels that are set for rules. -/
structure LintConfig where
  /-- The levels by the identifiers of the rules. -/
  rules : OrderedMap RuleLevel
  deriving DecidableEq

namespace LintConfig

def default : LintConfig := ⟨.empty⟩

/-- The JSON form of levels, sorted by rule. -/
def toJson (config : LintConfig) : Json :=
  .object [("rules",
    .ofMembers (config.rules.entries.map fun entry ↦ (entry.1, .string entry.2.name)))]

def ofDocument? (document : JsonDocument) : Option LintConfig := do
  let r ← JsonDocument.Record.of? ["rules"] document
  return ⟨← r.defaulted "rules" .empty fun value ↦ value.map? (JsonDocument.choice? RuleLevel.ofName?)⟩

end LintConfig

/-- A lint rule. -/
inductive LintRule where
  /-- Custom buttons have a permission. -/
  | buttonPermission
  /-- Custom buttons do something. -/
  | buttonEndpoint
  /-- Fields that are shown have a label. -/
  | missingLabel
  /-- Fields have different labels. -/
  | duplicateLabel
  /-- Forms have at most so many fields. -/
  | formSize (limit : Nat)
  /-- Settings of related items have a path. -/
  | relationPath
  deriving DecidableEq

namespace LintRule

/-- The rules that are checked, in this order. -/
def builtIn : List LintRule :=
  [.buttonPermission, .buttonEndpoint, .missingLabel, .duplicateLabel, .formSize 20,
    .relationPath]

def id : LintRule → String
  | .buttonPermission => "custom-button-permission"
  | .buttonEndpoint => "custom-button-endpoint"
  | .missingLabel => "missing-label"
  | .duplicateLabel => "duplicate-label"
  | .formSize _ => "form-size"
  | .relationPath => "relation-config"

def description : LintRule → String
  | .buttonPermission => "Custom buttons need an action-permission entry or nobody sees them"
  | .buttonEndpoint => "Custom buttons should declare an action-api or an action-callback"
  | .missingLabel => "Visible fields should have a label"
  | .duplicateLabel => "Detects fields with the same label"
  | .formSize _ => "Add and edit forms should not have too many fields"
  | .relationPath => "Relation display settings need a path"

/-- How much the findings of a rule matter by themselves. -/
def severity : LintRule → LintSeverity
  | .buttonEndpoint => .info
  | .duplicateLabel => .info
  | _ => .warning

end LintRule

/-- What a lint rule finds. -/
inductive LintProblem where
  | unmappedButton (button : ButtonId)
  | idleButton (button : ButtonId)
  | unlabeled (field : String)
  | sameLabel (field first : String)
  | largeForm (mode : FormMode) (model : String) (count limit : Nat)
  | noPath (field : String) (settings : List String)
  deriving DecidableEq

namespace LintProblem

def field? : LintProblem → Option String
  | .unlabeled field => some field
  | .sameLabel field _ => some field
  | .noPath field _ => some field
  | _ => none

def message : LintProblem → String
  | .unmappedButton button =>
    "Button \"" ++ button.text ++
      "\" has no action-permission entry and is hidden from every user"
  | .idleButton button => "Button \"" ++ button.text ++ "\" has no action-api or action-callback"
  | .unlabeled field => "Field \"" ++ field ++ "\" has no label; its name is shown instead"
  | .sameLabel field first =>
    "Field \"" ++ field ++ "\" has the same label as \"" ++ first ++ "\""
  | .largeForm mode model count limit =>
    "The " ++ mode.name ++ " form of \"" ++ model ++ "\" has " ++ toString count ++
      " fields (max " ++ toString limit ++ "). Consider hiding some with " ++ mode.name ++ "-hidden"
  | .noPath field settings =>
    "Field \"" ++ field ++ "\" sets " ++ " and ".intercalate settings ++ " without path"

end LintProblem

namespace ModelConfig

/-- Whether a setting of a button is there and not blank. -/
def hasAction (config : ModelConfig) (setting : ActionAttribute) (b : ButtonId) : Bool :=
  ((config.settings.action setting).bind (·.find? b.bareName)).any fun s ↦ !Text.allBlank s

/-- Whether a label leaves the field without a caption. -/
def isUnlabeled (field : FieldConfig) : Bool :=
  (field .label).all Text.allBlank

/-- The form in which labels are compared: case and blanks around them do not matter. -/
def normalLabel (label : String) : String :=
  Text.lowercase (Text.trim label)

/-- The labels that count, with the fields that have them. -/
def comparedLabels (config : ModelConfig) : List (String × String) :=
  config.fields.entries.filterMap fun entry ↦
    match entry.2 .label with
    | some label => if normalLabel label = "" then none else some (normalLabel label, entry.1)
    | none => none

/-- The fields whose label an earlier field has; `seen` holds the first field of each label. -/
def repeatedLabels (seen : List (String × String)) : List (String × String) → List LintProblem
  | [] => []
  | (label, field) :: rest =>
    match seen.lookup label with
    | some first => .sameLabel field first :: repeatedLabels seen rest
    | none => repeatedLabels ((label, field) :: seen) rest

/-- The settings of related items that a field makes. -/
def relationSettings (field : FieldConfig) : List String :=
  (if (field .pathItem).isSome then ["path-item"] else []) ++
    if (field .mode).isSome then ["mode"] else []

/-- What a rule finds. -/
def lintProblems (config : ModelConfig) : LintRule → List LintProblem
  | .buttonPermission =>
    let mapped := config.settings.action .permission
    (config.buttons.filter fun b ↦ b.isCustom && !mapped.any (·.contains b.bareName)).map
      .unmappedButton
  | .buttonEndpoint =>
    (config.buttons.filter fun b ↦
      b.isCustom && !config.hasAction .api b && !config.hasAction .callback b).map .idleButton
  | .missingLabel =>
    (config.fields.entries.filter fun entry ↦
      isUnlabeled entry.2 &&
        [FormMode.table, .add, .edit, .detail].any entry.2.isVisible).map fun entry ↦
          .unlabeled entry.1
  | .duplicateLabel => repeatedLabels [] config.comparedLabels
  | .formSize limit =>
    [FormMode.add, .edit].filterMap fun mode ↦
      let count := (config.fieldsFor mode).length
      if limit < count then some (.largeForm mode config.model count limit) else none
  | .relationPath =>
    config.fields.entries.filterMap fun entry ↦
      let settings := relationSettings entry.2
      if (entry.2 .path).any (· ≠ "") || settings = [] then none
      else some (.noPath entry.1 settings)

def lintFindings (config : ModelConfig) (rule : LintRule) (severity : LintSeverity) :
    List LintFinding :=
  (config.lintProblems rule).map fun p ↦ ⟨rule.id, severity, config.model, p.field?, p.message⟩

end ModelConfig

namespace LintConfig

/-- How much the findings of a rule matter; none if the rule is switched off. -/
def severity? (config : LintConfig) (rule : LintRule) : Option LintSeverity :=
  match config.rules.find? rule.id with
  | some level => level.severity?
  | none => some rule.severity

/-- The findings of all rules that are not switched off. -/
def lint (config : LintConfig) (model : ModelConfig) : List LintFinding :=
  LintRule.builtIn.flatMap fun rule ↦
    match config.severity? rule with
    | some severity => model.lintFindings rule severity
    | none => []

end LintConfig

end FieldTags
