import FieldTags.Expression.Parser
import FieldTags.Expression.Value

/-!
# Evaluating expressions

An expression is evaluated against a scope, which gives a value to some names. Everything that an
expression reads comes from there. Of a logical operator and a conditional, only the operands that
are needed are evaluated. An optional access to null or to an undefined value ends its whole member
chain: the chain is then undefined and none of its later keys is evaluated.
-/

namespace FieldTags

/-- The values that an expression can name. -/
abbrev Scope := String → Option Json

namespace Scope

/-- The members of an object as a scope; other data has none. -/
def ofJson (value : Json) : Scope :=
  value.member?

/-- A list of names and values as a scope, in which the first entry of a name counts. -/
def ofList (entries : List (String × Json)) : Scope :=
  fun name ↦ entries.lookup name

end Scope

def ExpressionLiteral.value : ExpressionLiteral → ScriptValue
  | .undefined => .undefined
  | .null => .null
  | .bool b => .bool b
  | .number x => .number x
  | .text s => .text s

def UnaryOperator.apply (operator : UnaryOperator) (value : ScriptValue) : ScriptValue :=
  match operator with
  | .not => .bool !value.isTruthy
  | .negate => .number value.toNumber.neg
  | .plus => .number value.toNumber

def BinaryOperator.apply (operator : BinaryOperator) (left right : ScriptValue) : ScriptValue :=
  match operator with
  | .add => left.add right
  | .subtract => .number (left.toNumber.sub right.toNumber)
  | .multiply => .number (left.toNumber.mul right.toNumber)
  | .divide => .number (left.toNumber.div right.toNumber)
  | .remainder => .number (left.toNumber.rem right.toNumber)
  | .less => .bool ((left.order? right).any Ordering.isLT)
  | .lessOrEqual => .bool ((left.order? right).any Ordering.isLE)
  | .greater => .bool ((left.order? right).any Ordering.isGT)
  | .greaterOrEqual => .bool ((left.order? right).any Ordering.isGE)
  | .equal => .bool (left.looseEquals right)
  | .unequal => .bool !left.looseEquals right
  | .strictEqual => .bool (left.strictEquals right)
  | .strictUnequal => .bool !left.strictEquals right

/-- Whether a logical operator has the value of its left operand. -/
def LogicalOperator.takesLeft (operator : LogicalOperator) (left : ScriptValue) : Bool :=
  match operator with
  | .and => !left.isTruthy
  | .or => left.isTruthy
  | .nullish => !left.isNullish

/-- The property of a value; reading one of null or an undefined value is an error. -/
def ScriptValue.readProperty (target : ScriptValue) (key : String) :
    Except ExpressionError ScriptValue :=
  match target.property? key with
  | some value => .ok value
  | none => .error (.nullAccess key target.kindName)

namespace Expression

/-- The value at the end of a member chain; a chain that an optional access has ended is undefined. -/
def chainValue (value : Option ScriptValue) : ScriptValue :=
  value.getD .undefined

/-- The value of a member chain, or nothing if an optional access has ended it. -/
def evalChain (scope : Scope) : Expression → Except ExpressionError (Option ScriptValue)
  | .literal value => .ok (some value.value)
  | .identifier name =>
    match scope name with
    | some value => .ok (some (.ofJson ⟨name, []⟩ value))
    | none => .error (.unknownIdentifier name)
  | .member object property optional => do
    match ← evalChain scope object with
    | none => return none
    | some target =>
      if optional && target.isNullish then return none
      else return some (← target.readProperty property)
  | .index object key optional => do
    match ← evalChain scope object with
    | none => return none
    | some target =>
      if optional && target.isNullish then return none
      else
        let property := chainValue (← evalChain scope key)
        return some (← target.readProperty property.toText)
  | .unary operator operand => do
    return some (operator.apply (chainValue (← evalChain scope operand)))
  | .binary operator left right => do
    let l := chainValue (← evalChain scope left)
    let r := chainValue (← evalChain scope right)
    return some (operator.apply l r)
  | .logical operator left right => do
    let l := chainValue (← evalChain scope left)
    if operator.takesLeft l then return some l
    else return some (chainValue (← evalChain scope right))
  | .conditional test consequent alternate => do
    let t := chainValue (← evalChain scope test)
    if t.isTruthy then return some (chainValue (← evalChain scope consequent))
    else return some (chainValue (← evalChain scope alternate))

def value (scope : Scope) (e : Expression) : Except ExpressionError ScriptValue :=
  (evalChain scope e).map chainValue

/-- The JSON data of an expression; nothing if its value is undefined. -/
def eval (scope : Scope) (e : Expression) : Except ExpressionError (Option Json) :=
  (e.value scope).map ScriptValue.toJson?

def test (scope : Scope) (e : Expression) : Except ExpressionError Bool :=
  (e.value scope).map ScriptValue.isTruthy

end Expression

end FieldTags
