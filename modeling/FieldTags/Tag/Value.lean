import FieldTags.Json.Record
import FieldTags.Number.Literal
import FieldTags.Text.Quoted

/-!
# Tag values

The typed scalars of the tag grammar. A trimmed text reads as a truth value if it is `true` or
`false` in any case of its letters, as a number if it is a number literal, and as itself otherwise;
the empty text is itself.
-/

namespace FieldTags

/-- A scalar of the tag grammar. -/
inductive TagValue where
  | bool (value : Bool)
  | number (value : Binary64)
  | text (value : String)
  deriving DecidableEq

namespace TagValue

/-- The value that a trimmed text reads as. -/
def read (s : String) : TagValue :=
  if s = "" then .text ""
  else if s.toLower = "true" then .bool true
  else if s.toLower = "false" then .bool false
  else
    match Binary64.ofText? s with
    | some x => .number x
    | none => .text s

def toText : TagValue → String
  | .bool true => "true"
  | .bool false => "false"
  | .number x => NumberLayout.plain.text x
  | .text s => s

/-- Whether a value counts as true: `false`, zero, what is not a number and the empty text do not. -/
def isTruthy : TagValue → Bool
  | .bool b => b
  | .number x => !x.isZero && !x.isNaN
  | .text s => s ≠ ""

/-- The value as free JSON data, where whole numbers are integers. -/
def toData : TagValue → Json
  | .bool b => .bool b
  | .number x => .ofCalculation x
  | .text s => .string s

/-- The JSON form of a value in a configuration, where numbers are binary numbers. -/
def toJson : TagValue → Json
  | .bool b => .bool b
  | .number x => .ofBinary64 x
  | .text s => .string s

def ofDocument? : JsonDocument → Option TagValue
  | .bool b => some (.bool b)
  | .number n => some (.number n.toBinary64)
  | .string s => some (.text s)
  | _ => none

/-- The value as notes show it, with the kind that it has. -/
def noteText : TagValue → String
  | .bool true => "Bool(true)"
  | .bool false => "Bool(false)"
  | .number x => "Number(" ++ NumberLayout.note.text x ++ ")"
  | .text s => "String(" ++ Text.quoted s ++ ")"

end TagValue

end FieldTags
