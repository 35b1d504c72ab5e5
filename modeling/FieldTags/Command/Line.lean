import FieldTags.Command.Arguments

/-!
# Command lines

A command line names a command and gives its arguments. Whatever does not fit the command makes the
line unreadable.
-/

namespace FieldTags

/-- What the values of a tag are shown as. -/
inductive TagForm where
  | raw
  | field
  | model
  deriving DecidableEq

def TagForm.ofName? (name : String) : Option TagForm :=
  if name = "raw" then some .raw
  else if name = "field" then some .field
  else if name = "model" then some .model
  else none

/-- A command. -/
inductive Command where
  | tag (tag : String) (form : TagForm)
  /-- Shows configurations, or writes them to a file. -/
  | parse (path : String) (output : Option String)
  | validate (path : String) (format : String)
  | lint (path : String) (format : String)
  /-- Evaluates a template, or a condition. -/
  | eval (expression : String) (context : Option String) (condition : Bool)
  | render (path rows : String) (format : String)
  | buttons (path permissions : String) (row : Option String)
  deriving DecidableEq

namespace Command

def valued (name : String) : OptionSpec := ⟨name, none, true⟩

/-- A text that is not empty, as paths have to be. -/
def path? (path : String) : Option String :=
  if path = "" then none else some path

/-- The one path among the values of arguments, or the working directory if there are none. -/
def optionalPath? (a : Arguments) : Option String :=
  match a.values with
  | [] => some "."
  | [path] => path? path
  | _ => none

def onlyValue? (a : Arguments) : Option String :=
  match a.values with
  | [value] => some value
  | _ => none

/-- The command with the arguments that follow its name. -/
def ofArguments? (name : String) (rest : List String) : Option Command := do
  let format := valued "format"
  if name = "tag" then
    let a ← Arguments.read? [valued "as"] rest
    return .tag (← onlyValue? a) (← TagForm.ofName? ((a.option? "as").getD "raw"))
  else if name = "parse" then
    let a ← Arguments.read? [⟨"output", some 'o', true⟩] rest
    return .parse (← optionalPath? a) (← (a.option? "output").mapM path?)
  else if name = "validate" then
    let a ← Arguments.read? [format] rest
    return .validate (← optionalPath? a) ((a.option? "format").getD "human")
  else if name = "lint" then
    let a ← Arguments.read? [format] rest
    return .lint (← optionalPath? a) ((a.option? "format").getD "human")
  else if name = "eval" then
    let a ← Arguments.read? [valued "context", ⟨"condition", none, false⟩] rest
    return .eval (← onlyValue? a) (a.option? "context") (a.hasSwitch "condition")
  else if name = "render" then
    let a ← Arguments.read? [valued "rows", format] rest
    return .render (← (onlyValue? a).bind path?) (← a.option? "rows")
      ((a.option? "format").getD "human")
  else if name = "buttons" then
    let a ← Arguments.read? [valued "permissions", valued "row"] rest
    return .buttons (← (onlyValue? a).bind path?) (← a.option? "permissions") (a.option? "row")
  else none

def read? : List String → Option Command
  | [] => none
  | name :: rest => ofArguments? name rest

end Command

end FieldTags
