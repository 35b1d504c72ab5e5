import FieldTags.Expression.Evaluation
import FieldTags.Note

/-!
# Templates and conditions

A template is a text between double braces; its body is the text inside, trimmed. Evaluating a text
that is no template gives the text itself, and a template whose body is blank or fails gives
nothing. A condition decides about one row of data, which it sees under the name `row`; braces around
it are tolerated. A condition that is blank or fails holds, so that a mistake in it hides nothing. A
template and a condition are worth a note only if they fail.
-/

namespace FieldTags

namespace Template

/-- The characters of `cs` without a closing pair of braces. -/
def dropClosing (cs : List Char) : Option (List Char) :=
  match cs.reverse with
  | '}' :: '}' :: before => some before.reverse
  | _ => none

/-- The body of a template; other texts have none. -/
def body? (s : String) : Option String :=
  match s.toList with
  | '{' :: '{' :: rest => (dropClosing rest).map fun cs ↦ String.ofList (Text.trimChars cs)
  | _ => none

/-- What a text gives: itself, or the value of the template that it is. -/
inductive Outcome where
  | plain (text : String)
  | blank
  /-- The body has a value, which may be undefined. -/
  | value (data : Option Json)
  /-- The body could not be read or evaluated. -/
  | failed (body : String) (error : ExpressionError)

def outcome (scope : Scope) (s : String) : Outcome :=
  match body? s with
  | none => .plain s
  | some body =>
    if body = "" then .blank
    else
      match (Expression.compile body).bind (Expression.eval scope) with
      | .ok data => .value data
      | .error e => .failed body e

def Outcome.data? : Outcome → Option Json
  | .plain text => some (.string text)
  | .blank => none
  | .value data => data
  | .failed _ _ => none

def evaluate (scope : Scope) (s : String) : Option Json :=
  (outcome scope s).data?

def notes (scope : Scope) (s : String) : List Note :=
  match outcome scope s with
  | .failed body error => [.templateFailed body error]
  | _ => []

end Template

namespace Condition

/-- The expression of a condition: the body of the template that it is, or the whole text. -/
def source (condition : String) : String :=
  (Template.body? (Text.trim condition)).getD condition

/-- What a condition sees: the row, or an empty object where there is none. -/
def scope (row : Option Json) : Scope :=
  Scope.ofList [("row", row.getD (.object []))]

/-- What a condition says about a row. -/
inductive Outcome where
  | blank
  | decided (holds : Bool)
  /-- Its text could not be read or evaluated. -/
  | failed (source : String) (error : ExpressionError)

def outcome (condition : String) (row : Option Json) : Outcome :=
  let source := source condition
  if Text.allBlank source then .blank
  else
    match (Expression.compile source).bind (Expression.test (scope row)) with
    | .ok holds => .decided holds
    | .error e => .failed source e

/-- Whether a condition holds; a blank one and one that fails do. -/
def holds (condition : String) (row : Option Json) : Bool :=
  match outcome condition row with
  | .blank => true
  | .decided holds => holds
  | .failed _ _ => true

def notes (condition : String) (row : Option Json) : List Note :=
  match outcome condition row with
  | .failed source error => [.conditionFailed source error]
  | _ => []

end Condition

end FieldTags
