import FieldTags.Number.Binary64

/-!
# Expression trees

An expression is a literal, a name, a member access, or an operator applied to expressions. A member
is named or computed; an optional access gives nothing where its target is null or undefined. The
names that an expression reads are its identifiers, each listed once, in the order of first use.
-/

namespace FieldTags

/-- The operators in front of one operand. -/
inductive UnaryOperator where
  | not
  | negate
  | plus
  deriving DecidableEq

/-- The operators that need both of their operands. -/
inductive BinaryOperator where
  | add
  | subtract
  | multiply
  | divide
  | remainder
  | less
  | lessOrEqual
  | greater
  | greaterOrEqual
  | equal
  | unequal
  | strictEqual
  | strictUnequal
  deriving DecidableEq

/-- The operators that may do without their second operand. -/
inductive LogicalOperator where
  | and
  | or
  | nullish
  deriving DecidableEq

/-- A value written in an expression. -/
inductive ExpressionLiteral where
  | undefined
  | null
  | bool (value : Bool)
  | number (value : Binary64)
  | text (value : String)
  deriving DecidableEq

/-- An expression. -/
inductive Expression where
  | literal (value : ExpressionLiteral)
  | identifier (name : String)
  /-- The property of a fixed name. -/
  | member (object : Expression) (property : String) (optional : Bool)
  /-- The property whose name is the text of a value. -/
  | index (object : Expression) (key : Expression) (optional : Bool)
  | unary (operator : UnaryOperator) (operand : Expression)
  | binary (operator : BinaryOperator) (left right : Expression)
  | logical (operator : LogicalOperator) (left right : Expression)
  | conditional (test consequent alternate : Expression)
  deriving DecidableEq

namespace Expression

/-- The names with the names that an expression reads added behind them, each once. -/
def addIdentifiers (names : List String) : Expression → List String
  | .literal _ => names
  | .identifier name => if names.contains name then names else names ++ [name]
  | .member object _ _ => addIdentifiers names object
  | .index object key _ => addIdentifiers (addIdentifiers names object) key
  | .unary _ operand => addIdentifiers names operand
  | .binary _ left right => addIdentifiers (addIdentifiers names left) right
  | .logical _ left right => addIdentifiers (addIdentifiers names left) right
  | .conditional test consequent alternate =>
    addIdentifiers (addIdentifiers (addIdentifiers names test) consequent) alternate

/-- The names that an expression reads from its scope, in the order of first use. -/
def identifiers (e : Expression) : List String :=
  addIdentifiers [] e

end Expression

end FieldTags
