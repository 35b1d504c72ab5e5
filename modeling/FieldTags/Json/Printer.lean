import FieldTags.Json.Token

/-!
# JSON text of a value

The compact text is the texts of the tokens of a value without anything between them. The indented
text puts every item and member on a line of its own, two spaces deeper than the line before, except
that empty arrays and objects stay on one line.
-/

namespace FieldTags.Json

mutual

def tokens : Json → List Token
  | .null => [.null]
  | .bool value => [.bool value]
  | .number value => [.number value]
  | .string value => [.string value]
  | .array items => .arrayStart :: itemTokens items ++ [.arrayEnd]
  | .object members => .objectStart :: memberTokens members ++ [.objectEnd]

/-- The tokens of the items of an array with the commas between them. -/
def itemTokens : List Json → List Token
  | [] => []
  | [item] => item.tokens
  | item :: rest => item.tokens ++ .comma :: itemTokens rest

/-- The tokens of the members of an object with the commas between them. -/
def memberTokens : List (String × Json) → List Token
  | [] => []
  | [(key, value)] => .string key :: .colon :: value.tokens
  | (key, value) :: rest => .string key :: .colon :: value.tokens ++ .comma :: memberTokens rest

end

def compact (value : Json) : String :=
  String.join (value.tokens.map Token.text)

/-- A line feed and the indentation of a line. -/
def indentation (depth : Nat) : String :=
  String.ofList ('\n' :: List.replicate (2 * depth) ' ')

mutual

/-- The indented JSON text of a value that starts on a line of the given depth. -/
def indentedFrom (depth : Nat) : Json → String
  | .null => Token.null.text
  | .bool value => (Token.bool value).text
  | .number value => value.text
  | .string value => stringText value
  | .array [] => "[]"
  | .array items => "[" ++ indentedItems (depth + 1) items ++ indentation depth ++ "]"
  | .object [] => "{}"
  | .object members =>
    Token.objectStart.text ++ indentedMembers (depth + 1) members ++ indentation depth ++
      Token.objectEnd.text

def indentedItems (depth : Nat) : List Json → String
  | [] => ""
  | [item] => indentation depth ++ indentedFrom depth item
  | item :: rest =>
    indentation depth ++ indentedFrom depth item ++ "," ++ indentedItems depth rest

def indentedMembers (depth : Nat) : List (String × Json) → String
  | [] => ""
  | [(key, value)] => indentation depth ++ stringText key ++ ": " ++ indentedFrom depth value
  | (key, value) :: rest =>
    indentation depth ++ stringText key ++ ": " ++ indentedFrom depth value ++ "," ++
      indentedMembers depth rest

end

def indented (value : Json) : String :=
  indentedFrom 0 value

end FieldTags.Json
