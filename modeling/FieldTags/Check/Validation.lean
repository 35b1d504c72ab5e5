import FieldTags.Check.Finding
import FieldTags.Config.Assembly
import FieldTags.Config.View
import FieldTags.Display.Format

/-!
# Validation

Assembling a configuration accepts everything. Validation names what is then silently without
effect: settings of buttons that are not declared, expressions that do not compile, words outside of
a vocabulary and keys that no attribute has.
-/

namespace FieldTags

/-- Where a field holds a template. -/
inductive TemplatePlace where
  | attribute (a : FieldAttribute)
  /-- In a parameter of the request for options. -/
  | parameter (name : String)
  deriving DecidableEq

def TemplatePlace.name : TemplatePlace → String
  | .attribute a => a.key
  | .parameter name => FieldAttribute.apiParams.key ++ "." ++ name

/-- What can be wrong with a configuration. -/
inductive Problem where
  | undeclaredButton (setting : ActionAttribute) (key : String)
  /-- A button is neither built-in nor custom. -/
  | unknownButton (button : ButtonId)
  | brokenCondition (button : String) (error : ExpressionError)
  /-- A condition reads names that it does not see. -/
  | foreignNames (button : String) (names : List String)
  /-- A method is neither of the two that there are. -/
  | unknownMethod (button : String) (method : String)
  | brokenTemplate (field : String) (place : TemplatePlace) (error : ExpressionError)
  | unknownFormatter (field : String) (kind : String)
  | unknownMode (field : String) (mode : String)
  | unknownOperator (field : String) (operator : String)
  /-- A search for several values does not use the operator for it. -/
  | multipleWithoutIn (field : String)
  | unknownModelKey (key : String)
  | unknownFieldKey (field : String) (key : String)
  deriving DecidableEq

namespace Problem

def code : Problem → String
  | .undeclaredButton _ _ => "UIT-E001"
  | .brokenCondition _ _ => "UIT-E002"
  | .brokenTemplate _ _ _ => "UIT-E003"
  | .unknownFormatter _ _ => "UIT-E004"
  | .unknownMode _ _ => "UIT-W001"
  | .unknownOperator _ _ => "UIT-W002"
  | .unknownMethod _ _ => "UIT-W003"
  | .multipleWithoutIn _ => "UIT-W004"
  | .unknownFieldKey _ _ => "UIT-W005"
  | .unknownModelKey _ => "UIT-W006"
  | .unknownButton _ => "UIT-W007"
  | .foreignNames _ _ => "UIT-W008"

def severity : Problem → Severity
  | .undeclaredButton _ _ => .error
  | .brokenCondition _ _ => .error
  | .brokenTemplate _ _ _ => .error
  | .unknownFormatter _ _ => .error
  | _ => .warning

def field? : Problem → Option String
  | .brokenTemplate field _ _ => some field
  | .unknownFormatter field _ => some field
  | .unknownMode field _ => some field
  | .unknownOperator field _ => some field
  | .multipleWithoutIn field => some field
  | .unknownFieldKey field _ => some field
  | _ => none

def message : Problem → String
  | .undeclaredButton setting key =>
    setting.key ++ " has an entry for \"" ++ key ++ "\", which is not listed in actions"
  | .unknownButton button =>
    "Button \"" ++ button.text ++ "\" is neither built-in nor prefixed with \"custom:\""
  | .brokenCondition button error =>
    "Condition for \"" ++ button ++ "\" does not compile: " ++ error.message
  | .foreignNames button names =>
    "Condition for \"" ++ button ++ "\" reads " ++ ", ".intercalate names ++
      "; only `row` is in scope, so the button is always shown"
  | .unknownMethod button method =>
    "Method \"" ++ method ++ "\" for \"" ++ button ++ "\" is not GET or POST; POST is used"
  | .brokenTemplate _ place error =>
    place.name ++ " expression does not compile: " ++ error.message
  | .unknownFormatter _ kind => "Unknown formatter type \"" ++ kind ++ "\""
  | .unknownMode _ mode => "Unknown mode \"" ++ mode ++ "\"; rendered as flat"
  | .unknownOperator _ operator =>
    "Unknown search operator \"" ++ operator ++ "\"; treated as eq"
  | .multipleWithoutIn _ => "multiple is set but the search operator is not \"in\""
  | .unknownModelKey key => "Unknown model key \"" ++ key ++ "\""
  | .unknownFieldKey _ key => "Unknown field key \"" ++ key ++ "\""

/-- A problem as it is reported. -/
def finding (model : String) (p : Problem) : Finding :=
  ⟨p.code, p.severity, model, p.field?, p.message⟩

end Problem

namespace ModelConfig

/-- The entries for buttons that are not declared. -/
def undeclaredButtons (config : ModelConfig) : List Problem :=
  let declared := config.buttons.map ButtonId.bareName
  ActionAttribute.all.flatMap fun setting ↦
    let keys := ((config.settings.action setting).map OrderedMap.keys).getD []
    (keys.filter fun key ↦ !declared.contains key).map (.undeclaredButton setting)

/-- The buttons that are neither built-in nor custom. -/
def unknownButtons (config : ModelConfig) : List Problem :=
  (config.buttons.filter fun b ↦ !b.isCustom && b.builtIn?.isNone).map .unknownButton

def conditionProblems (button condition : String) : List Problem :=
  match Expression.compile (Condition.source condition) with
  | .error error => [.brokenCondition button error]
  | .ok e =>
    let foreign := e.identifiers.filter (· ≠ "row")
    if foreign = [] then [] else [.foreignNames button foreign]

def actionEntries (config : ModelConfig) (setting : ActionAttribute) : List (String × String) :=
  ((config.settings.action setting).map OrderedMap.entries).getD []

/-- The entries of a setting are the values that it has for buttons. -/
theorem mem_actionEntries {config : ModelConfig} {setting : ActionAttribute} {name value : String} :
    (name, value) ∈ config.actionEntries setting ↔
      (config.settings.action setting).bind (·.find? name) = some value := by
  unfold actionEntries
  cases config.settings.action setting with
  | none => exact iff_of_false List.not_mem_nil nofun
  | some entries => exact OrderedMap.find?_eq_some_iff.symm

/-- The methods that are neither of the two that there are. -/
def unknownMethods (config : ModelConfig) : List Problem :=
  ((config.actionEntries .method).filter fun entry ↦ (RequestMethod.read entry.2).isNone).map
    fun entry ↦ .unknownMethod entry.1 entry.2

end ModelConfig

namespace FieldConfig

/-- The attributes that may hold a template, with their values. -/
def templateScalars (config : FieldConfig) : List (FieldAttribute × Option TagValue) :=
  [(.default, config .default), (.disabled, config .disabled),
    (.addDisabled, config .addDisabled), (.editDisabled, config .editDisabled),
    (.searchDefault, config .searchDefault)]

def scalarText? : Option TagValue → Option String
  | some (.text s) => some s
  | _ => none

/-- The texts of a field that may be templates, and where they stand. -/
def templateTexts (config : FieldConfig) : List (TemplatePlace × String) :=
  let params :=
    match config .apiParams with
    | some (.pairs entries) => entries.entries.map fun entry ↦ (.parameter entry.1, entry.2)
    | _ => []
  (config.templateScalars.filterMap fun (a, value) ↦
    (scalarText? value).map fun s ↦ (.attribute a, s)) ++ params

def templateError? (s : String) : Option ExpressionError :=
  match Template.body? s with
  | none => none
  | some body =>
    if body = "" then none
    else
      match Expression.compile body with
      | .ok _ => none
      | .error error => some error

/-- The templates of a field that do not compile. -/
def templateProblems (config : FieldConfig) (name : String) : List Problem :=
  config.templateTexts.filterMap fun (place, s) ↦
    (templateError? s).map (.brokenTemplate name place)

/-- The words of a field that are outside of their vocabulary. -/
def vocabularyProblems (config : FieldConfig) (name : String) : List Problem :=
  let formatter : List Problem :=
    match (config .formatter).bind FormatterSpec.read? with
    | some ⟨.unknown kind, _⟩ => [.unknownFormatter name kind]
    | _ => []
  let mode : List Problem :=
    match config .mode with
    | some mode => if (RelationMode.ofName? mode).isNone then [.unknownMode name mode] else []
    | none => []
  let operator : List Problem :=
    match config .operator with
    | some op => if (SearchOperator.ofName? op).isNone then [.unknownOperator name op] else []
    | none => []
  let multiple : List Problem :=
    if config .multiple = some true ∧ config.searchOperator ≠ .oneOf then
      [.multipleWithoutIn name]
    else []
  formatter ++ mode ++ operator ++ multiple

def problems (config : FieldConfig) (name : String) : List Problem :=
  config.templateProblems name ++ config.vocabularyProblems name

end FieldConfig

def Report.ofProblems (model : String) (problems : List Problem) : Report :=
  let findings := problems.map (Problem.finding model)
  ⟨findings.filter (·.severity = .error), findings.filter (·.severity = .warning)⟩

namespace ModelConfig

def problems (config : ModelConfig) : List Problem :=
  config.undeclaredButtons ++ config.unknownButtons ++
    ((config.actionEntries .condition).flatMap fun entry ↦ conditionProblems entry.1 entry.2) ++
    config.unknownMethods ++ config.fields.entries.flatMap fun entry ↦ entry.2.problems entry.1

def validate (config : ModelConfig) : Report :=
  .ofProblems config.model config.problems

/-- The errors that are reported are the problems that are errors. -/
theorem mem_errors_validate {config : ModelConfig} {finding : Finding} :
    finding ∈ config.validate.errors ↔
      ∃ p ∈ config.problems, p.severity = .error ∧ p.finding config.model = finding := by
  simp only [validate, Report.ofProblems, List.mem_filter, List.mem_map, decide_eq_true_eq]
  constructor
  · rintro ⟨⟨p, hp, rfl⟩, hseverity⟩
    exact ⟨p, hp, hseverity, rfl⟩
  · rintro ⟨p, hp, hseverity, rfl⟩
    exact ⟨⟨p, hp, rfl⟩, hseverity⟩

end ModelConfig

namespace TagRow

/-- The keys of a row that no attribute has. -/
def unknownKeys (row : TagRow) : List String :=
  (Tag.read row.tag).keys.filter fun key ↦
    if row.isSettings then (ModelAttribute.ofKey? key).isNone
    else (FieldAttribute.ofKey? key).isNone

def problems (row : TagRow) : List Problem :=
  row.unknownKeys.map fun key ↦
    if row.isSettings then .unknownModelKey key else .unknownFieldKey row.field key

def validate (model : String) (rows : List TagRow) : Report :=
  .ofProblems model (rows.flatMap problems)

end TagRow

end FieldTags
