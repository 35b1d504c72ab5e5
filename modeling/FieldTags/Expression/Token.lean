import FieldTags.Number.Layout

/-!
# Tokens of expressions

An expression is made of numbers, texts, names and punctuators. Every token knows the byte offset at
which it starts.
-/

namespace FieldTags

/-- A punctuator of the expression language. -/
inductive Punctuator where
  | strictEqual
  | strictUnequal
  | equal
  | unequal
  | lessOrEqual
  | greaterOrEqual
  | and
  | or
  | nullish
  | optionalDot
  | openParenthesis
  | closeParenthesis
  | openBracket
  | closeBracket
  | dot
  | question
  | colon
  | not
  | less
  | greater
  | plus
  | minus
  | times
  | divide
  | remainder
  | comma
  deriving DecidableEq

namespace Punctuator

/-- All punctuators; one that begins with the text of another stands before it. -/
def all : List Punctuator :=
  [.strictEqual, .strictUnequal, .equal, .unequal, .lessOrEqual, .greaterOrEqual, .and, .or,
    .nullish, .optionalDot, .openParenthesis, .closeParenthesis, .openBracket, .closeBracket,
    .dot, .question, .colon, .not, .less, .greater, .plus, .minus, .times, .divide, .remainder,
    .comma]

def chars : Punctuator → List Char
  | .strictEqual => ['=', '=', '=']
  | .strictUnequal => ['!', '=', '=']
  | .equal => ['=', '=']
  | .unequal => ['!', '=']
  | .lessOrEqual => ['<', '=']
  | .greaterOrEqual => ['>', '=']
  | .and => ['&', '&']
  | .or => ['|', '|']
  | .nullish => ['?', '?']
  | .optionalDot => ['?', '.']
  | .openParenthesis => ['(']
  | .closeParenthesis => [')']
  | .openBracket => ['[']
  | .closeBracket => [']']
  | .dot => ['.']
  | .question => ['?']
  | .colon => [':']
  | .not => ['!']
  | .less => ['<']
  | .greater => ['>']
  | .plus => ['+']
  | .minus => ['-']
  | .times => ['*']
  | .divide => ['/']
  | .remainder => ['%']
  | .comma => [',']

def text (p : Punctuator) : String :=
  String.ofList p.chars

end Punctuator

/-- What a token is. -/
inductive TokenKind where
  | number (value : Binary64)
  | text (value : String)
  | name (value : String)
  | punctuator (value : Punctuator)
  deriving DecidableEq

/-- How error texts show a token. -/
def TokenKind.describe : TokenKind → String
  | .number x => x.scriptText
  | .text s => "\"" ++ s ++ "\""
  | .name s => s
  | .punctuator p => p.text

/-- A token and the byte offset at which it starts. -/
structure ExpressionToken where
  kind : TokenKind
  offset : Nat
  deriving DecidableEq

end FieldTags
