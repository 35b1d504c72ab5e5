import FieldTags.Json.Record

/-!
# Findings

A finding is what is reported about a configuration: the code of the problem, how bad it is, where
it is and a text.
-/

namespace FieldTags

/-- How bad a problem is. -/
inductive Severity where
  | error
  | warning
  deriving DecidableEq

namespace Severity

def all : List Severity := [.error, .warning]

def name : Severity → String
  | .error => "error"
  | .warning => "warning"

def ofName? (s : String) : Option Severity :=
  all.find? (·.name = s)

end Severity

/-- A reported problem. -/
structure Finding where
  code : String
  severity : Severity
  model : String
  /-- The field, if it is the problem of one. -/
  field : Option String
  message : String
  deriving DecidableEq

namespace Finding

def toJson (f : Finding) : Json :=
  .ofOptionalMembers [("code", some (.string f.code)), ("severity", some (.string f.severity.name)),
    ("model", some (.string f.model)), ("field", f.field.map .string),
    ("message", some (.string f.message))]

def ofDocument? (document : JsonDocument) : Option Finding := do
  let r ← JsonDocument.Record.of? ["code", "severity", "model", "field", "message"] document
  return {
    code := ← r.required "code" JsonDocument.string?
    severity := ← r.required "severity" (JsonDocument.choice? Severity.ofName?)
    model := ← r.required "model" JsonDocument.string?
    field := ← r.optional "field" JsonDocument.string?
    message := ← r.required "message" JsonDocument.string? }

end Finding

/-- The findings about a configuration. -/
structure Report where
  errors : List Finding
  warnings : List Finding
  deriving DecidableEq

namespace Report

def isClean (r : Report) : Bool :=
  r.errors.isEmpty && r.warnings.isEmpty

def toJson (r : Report) : Json :=
  .object [("errors", .array (r.errors.map Finding.toJson)),
    ("warnings", .array (r.warnings.map Finding.toJson))]

def ofDocument? (document : JsonDocument) : Option Report := do
  let r ← JsonDocument.Record.of? ["errors", "warnings"] document
  return ⟨← r.required "errors" (JsonDocument.list? Finding.ofDocument?),
    ← r.required "warnings" (JsonDocument.list? Finding.ofDocument?)⟩

end Report

end FieldTags
