import FieldTags.Text.Blank

/-!
# Errors of expressions

What can be wrong with the text of an expression, and what can go wrong in evaluating one. Offsets
count the bytes of the text in UTF-8.
-/

namespace FieldTags

/-- Why an expression could not be read or evaluated. -/
inductive ExpressionError where
  | unexpectedCharacter (found : Char) (offset : Nat)
  | unterminatedText (offset : Nat)
  /-- A number literal that stands for no number or runs into a name. -/
  | invalidNumber (literal : String) (offset : Nat)
  | unexpectedToken (found : String) (expected : String) (offset : Nat)
  | unexpectedEnd (expected : String)
  /-- An argument list: expressions call nothing. -/
  | callNotAllowed (offset : Nat)
  | tooDeep
  | unknownIdentifier (name : String)
  /-- A property of null or of an undefined value. -/
  | nullAccess (property : String) (target : String)
  deriving DecidableEq

namespace ExpressionError

def message : ExpressionError → String
  | .unexpectedCharacter found offset =>
    "unexpected character '" ++ found.toString ++ "' at offset " ++ toString offset
  | .unterminatedText offset =>
    "unterminated string literal starting at offset " ++ toString offset
  | .invalidNumber literal offset =>
    "invalid number literal '" ++ literal ++ "' at offset " ++ toString offset
  | .unexpectedToken found expected offset =>
    "unexpected '" ++ found ++ "' at offset " ++ toString offset ++ ", expected " ++ expected
  | .unexpectedEnd expected => "unexpected end of expression, expected " ++ expected
  | .callNotAllowed offset =>
    "function calls are not supported (offset " ++ toString offset ++ ")"
  | .tooDeep => "expression nests or chains deeper than 64 levels"
  | .unknownIdentifier name => "'" ++ name ++ "' is not defined"
  | .nullAccess property target =>
    "cannot read property '" ++ property ++ "' of " ++ target

end ExpressionError

end FieldTags
