import FieldTags.Check.Validation
import FieldTags.Check.Lint
import FieldTags.Json.Printer
import FieldTags.Project.TagFile

/-!
# Reports of findings

What is found in tag files is reported as a line per finding and a summary, or as JSON; lint findings
also in the interchange format for static analysis results.
-/

namespace FieldTags.FileReport

/-- A finding and the path of the file that it is about. -/
structure Located (α : Type) where
  path : String
  finding : α

/-- A count with a noun in the singular or plural. -/
def counted (count : Nat) (noun : String) : String :=
  toString count ++ " " ++ noun ++ if count = 1 then "" else "s"

/-- What a finding is about: a model, or a field of it. -/
def target (model : String) (field : Option String) : String :=
  match field with
  | some field => model ++ "." ++ field
  | none => model

def line (path severity code target message : String) : String :=
  path ++ ": " ++ severity ++ "[" ++ code ++ "] " ++ target ++ ": " ++ message

def json (findings : List Json) (summary : List (String × Nat)) : String :=
  (Json.object [("diagnostics", .array findings),
    ("summary", .object (summary.map fun entry ↦ (entry.1, .ofInt entry.2)))]).canonical.indented

/-! ## Validation -/

/-- The findings about a tag file: errors, then those about its keys, then the other warnings. -/
def validation (file : TagFile) : List (Located Finding) :=
  let report := (ModelConfig.assemble file.model file.rows).validate
  let keys := TagRow.validate file.model file.rows
  (report.errors ++ keys.warnings ++ report.warnings).map (Located.mk file.path)

def errorCount (findings : List (Located Finding)) : Nat :=
  findings.countP (·.finding.severity = .error)

def validationText (findings : List (Located Finding)) (files : Nat) : String :=
  let errors := errorCount findings
  let lines := findings.map fun f ↦
    line f.path f.finding.severity.name f.finding.code (target f.finding.model f.finding.field)
      f.finding.message
  "\n".intercalate (lines ++ [counted errors "error" ++ ", " ++
    counted (findings.length - errors) "warning" ++ " in " ++ counted files "file" ++ "."])

def validationJson (findings : List (Located Finding)) (files : Nat) : String :=
  let errors := errorCount findings
  json (findings.map (·.finding.toJson))
    [("errors", errors), ("warnings", findings.length - errors), ("files", files)]

/-! ## Lint -/

def lint (config : LintConfig) (file : TagFile) : List (Located LintFinding) :=
  (config.lint (.assemble file.model file.rows)).map (Located.mk file.path)

def lintText (findings : List (Located LintFinding)) (files : Nat) : String :=
  let lines := findings.map fun f ↦
    line f.path f.finding.severity.name f.finding.rule (target f.finding.model f.finding.field)
      f.finding.message
  "\n".intercalate (lines ++ [counted findings.length "lint issue" ++ " in " ++
    counted files "file" ++ "."])

def lintJson (findings : List (Located LintFinding)) (files : Nat) : String :=
  json (findings.map (·.finding.toJson)) [("count", findings.length), ("files", files)]

/-! ## Interchange -/

def level : LintSeverity → String
  | .error => "error"
  | .warning => "warning"
  | .info => "note"

def textJson (s : String) : Json := .object [("text", .string s)]

def ruleJson (rule : LintRule) : Json :=
  .object [("id", .string rule.id), ("shortDescription", textJson rule.description),
    ("defaultConfiguration", .object [("level", .string (level rule.severity))])]

def locationJson (f : Located LintFinding) : Json :=
  .object [
    ("physicalLocation", .object [("artifactLocation", .object [("uri", .string f.path)])]),
    ("logicalLocations", .array [.object [("fullyQualifiedName",
      .string (target f.finding.model f.finding.field))]])]

def resultJson (f : Located LintFinding) : Json :=
  .object [("ruleId", .string f.finding.rule), ("level", .string (level f.finding.severity)),
    ("message", textJson f.finding.message), ("locations", .array [locationJson f])]

def toolJson : Json :=
  .object [("driver", .object [("name", .string "uitag-lint"), ("version", .string "0.3.0"),
    ("rules", .array (LintRule.builtIn.map ruleJson))])]

/-- Lint findings in the interchange format. -/
def interchange (findings : List (Located LintFinding)) : String :=
  (Json.object [
    ("$schema", .string ("https://raw.githubusercontent.com/oasis-tcs/sarif-spec/main/sarif-2.1/" ++
      "schema/sarif-schema-2.1.0.json")),
    ("version", .string "2.1.0"),
    ("runs", .array [.object [("tool", toolJson),
      ("results", .array (findings.map resultJson))]])]).canonical.indented

end FieldTags.FileReport
