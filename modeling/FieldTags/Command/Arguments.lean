/-!
# Arguments

The arguments of a command are values in order and options by name. The name of an option stands
behind two hyphens or is one letter behind one hyphen. An option either is a switch or takes a value,
which is the next argument or stands behind an equals sign; behind a letter it may also follow at once.
No option may be given twice, and behind a lone pair of hyphens everything is a value.
-/

namespace FieldTags

/-- An option of a command. -/
structure OptionSpec where
  name : String
  letter : Option Char
  takesValue : Bool
  deriving DecidableEq

/-- The arguments of a command. -/
structure Arguments where
  values : List String
  /-- The options that are given, with their values; a switch has the empty text. -/
  options : List (String × String)
  deriving DecidableEq

namespace Arguments

def option? (a : Arguments) (name : String) : Option String :=
  a.options.lookup name

def hasSwitch (a : Arguments) (name : String) : Bool :=
  (a.option? name).isSome

def addValue (value : String) (a : Arguments) : Arguments :=
  { a with values := value :: a.values }

/-- The arguments with an option in front, if it is not given behind. -/
def addOption (spec : OptionSpec) (value : String) (a : Arguments) : Option Arguments :=
  if a.hasSwitch spec.name then none
  else some { a with options := (spec.name, value) :: a.options }

/-- What an argument is by its start. -/
inductive Shape where
  /-- The pair of hyphens behind which everything is a value. -/
  | terminator
  /-- The name of an option and what follows its equals sign. -/
  | named (name : String) (attached : Option String)
  /-- The letter of an option and what follows it. -/
  | lettered (letter : Char) (attached : List Char)
  | value
  deriving DecidableEq

def shape (argument : String) : Shape :=
  match argument.toList with
  | ['-', '-'] => .terminator
  | '-' :: '-' :: rest =>
    let name := rest.takeWhile (· ≠ '=')
    .named (String.ofList name)
      (if name.length < rest.length then some (String.ofList (rest.drop (name.length + 1)))
      else none)
  | '-' :: letter :: rest => .lettered letter rest
  | _ => .value

/-- The value that is attached to a letter. -/
def letterValue? : List Char → Option String
  | [] => none
  | '=' :: rest => some (String.ofList rest)
  | rest => some (String.ofList rest)

/-- An option that an argument names, and the value that is attached to it. -/
def optionOf? (specs : List OptionSpec) : Shape → Option (OptionSpec × Option String)
  | .named name attached => (specs.find? (·.name = name)).map fun spec ↦ (spec, attached)
  | .lettered letter attached =>
    (specs.find? (·.letter = some letter)).map fun spec ↦ (spec, letterValue? attached)
  | _ => none

/-- The arguments of a command with the given options. -/
def read? (specs : List OptionSpec) : List String → Option Arguments
  | [] => some ⟨[], []⟩
  | argument :: rest =>
    match shape argument with
    | .terminator => some ⟨rest, []⟩
    | .value => (read? specs rest).map (addValue argument)
    | option =>
      match optionOf? specs option with
      | none => none
      | some (spec, attached) =>
        if spec.takesValue then
          match attached with
          | some value => (read? specs rest).bind (addOption spec value)
          | none =>
            match rest with
            | [] => none
            | next :: more =>
              if shape next = .value then (read? specs more).bind (addOption spec next) else none
        else if attached.isSome then none
        else (read? specs rest).bind (addOption spec "")

end Arguments

end FieldTags
