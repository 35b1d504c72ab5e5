import FieldTags.Expression.Lexer
import FieldTags.Expression.Tree

/-!
# Reading expressions

The grammar, from the loosest to the tightest construct: a conditional is a binary expression that
may be followed by `?`, a conditional, `:` and a conditional; a binary expression is made of unary
expressions and binary operators, all of which group to the left and bind by their precedence; a
unary expression is a chain of prefix operators in front of a member chain; a member chain is a
primary expression followed by named and computed accesses; a primary expression is a literal, a
name or a conditional in parentheses.

A parser keeps the tokens that are left and a depth. Nested conditionals, prefix operators and every
link of an operator chain or member chain add one to the depth, and each construct gives back what it
has added. An expression that would need a depth above 64 is too deep, so the depth also bounds the
recursion: every call gets one unit of fuel less than the call around it, and a depth of 64 is
reached long before the fuel that is provided for it is used up.
-/

namespace FieldTags

/-- What a binary punctuator builds from two operands. -/
inductive InfixOperator where
  | binary (operator : BinaryOperator)
  | logical (operator : LogicalOperator)
  deriving DecidableEq

def InfixOperator.apply (operator : InfixOperator) (left right : Expression) : Expression :=
  match operator with
  | .binary operator => .binary operator left right
  | .logical operator => .logical operator left right

/-- The precedence of a punctuator between two operands, and the operator that it stands for. -/
def Punctuator.betweenOperands? : Punctuator → Option (Nat × InfixOperator)
  | .nullish => some (1, .logical .nullish)
  | .or => some (2, .logical .or)
  | .and => some (3, .logical .and)
  | .equal => some (4, .binary .equal)
  | .unequal => some (4, .binary .unequal)
  | .strictEqual => some (4, .binary .strictEqual)
  | .strictUnequal => some (4, .binary .strictUnequal)
  | .less => some (5, .binary .less)
  | .lessOrEqual => some (5, .binary .lessOrEqual)
  | .greater => some (5, .binary .greater)
  | .greaterOrEqual => some (5, .binary .greaterOrEqual)
  | .plus => some (6, .binary .add)
  | .minus => some (6, .binary .subtract)
  | .times => some (7, .binary .multiply)
  | .divide => some (7, .binary .divide)
  | .remainder => some (7, .binary .remainder)
  | _ => none

/-- The operator that a punctuator stands for in front of an operand. -/
def Punctuator.beforeOperand? : Punctuator → Option UnaryOperator
  | .not => some .not
  | .minus => some .negate
  | .plus => some .plus
  | _ => none

/-- The expression that a name stands for: a word that is a literal, or an identifier. -/
def Expression.ofName (name : String) : Expression :=
  if name = "true" then .literal (.bool true)
  else if name = "false" then .literal (.bool false)
  else if name = "null" then .literal .null
  else if name = "undefined" then .literal .undefined
  else .identifier name

/-- The tokens that are left, and how deep in the expression they are read. -/
structure ParserState where
  rest : List ExpressionToken
  depth : Nat

/-- A reader of expressions; it leaves its state behind also when it fails. -/
abbrev Parser := EStateM ExpressionError ParserState

namespace Parser

def maxDepth : Nat := 64

/-- The next token if it is a punctuator. -/
def peek : Parser (Option Punctuator) := do
  match (← get).rest with
  | ⟨.punctuator p, _⟩ :: _ => return some p
  | _ => return none

def skip : Parser Unit :=
  modify fun s ↦ { s with rest := s.rest.tail }

/-- The next token, which is taken. -/
def next? : Parser (Option ExpressionToken) := do
  let token := (← get).rest.head?
  skip
  return token

/-- Whether the next token is the given punctuator, which is then taken. -/
def eat (p : Punctuator) : Parser Bool := do
  if (← peek) = some p then
    skip
    return true
  else return false

/-- The error of a token, or of the end of the text, where something else is needed. -/
def unexpected (token : Option ExpressionToken) (expected : String) : ExpressionError :=
  match token with
  | some token => .unexpectedToken token.kind.describe expected token.offset
  | none => .unexpectedEnd expected

/-- Takes the next token, which has to be the given punctuator. -/
def expect (p : Punctuator) : Parser Unit := do
  let token ← next?
  if token.map ExpressionToken.kind = some (.punctuator p) then return ()
  else throw (unexpected token p.text)

/-- Goes one level deeper, unless that is too deep. -/
def enter : Parser Unit := do
  modify fun s ↦ { s with depth := s.depth + 1 }
  if (← get).depth > maxDepth then throw .tooDeep

def leaveTo (depth : Nat) : Parser Unit :=
  modify fun s ↦ { s with depth := depth }

def propertyName : Parser String := do
  match ← next? with
  | some ⟨.name name, _⟩ => return name
  | token => throw (unexpected token "property name")

mutual

def conditional : Nat → Parser Expression
  | 0 => throw .tooDeep
  | fuel + 1 => do
    let base := (← get).depth
    enter
    let test ← binary fuel 1
    if ← eat .question then
      let consequent ← conditional fuel
      expect .colon
      let alternate ← conditional fuel
      leaveTo base
      return .conditional test consequent alternate
    else
      leaveTo base
      return test

/-- A binary expression all of whose outer operators have at least the given precedence. -/
def binary : Nat → Nat → Parser Expression
  | 0, _ => throw .tooDeep
  | fuel + 1, least => do
    let base := (← get).depth
    let first ← unary fuel
    let result ← operatorChain fuel least first
    leaveTo base
    return result

/-- The operators of at least the given precedence, with their right operands, behind `left`. -/
def operatorChain : Nat → Nat → Expression → Parser Expression
  | 0, _, _ => throw .tooDeep
  | fuel + 1, least, left => do
    match (← peek).bind Punctuator.betweenOperands? with
    | none => return left
    | some (precedence, operator) =>
      if precedence < least then return left
      else
        skip
        enter
        let right ← binary fuel (precedence + 1)
        operatorChain fuel least (operator.apply left right)

def unary : Nat → Parser Expression
  | 0 => throw .tooDeep
  | fuel + 1 => do
    match (← peek).bind Punctuator.beforeOperand? with
    | none => memberChain fuel
    | some operator =>
      let base := (← get).depth
      skip
      enter
      let operand ← unary fuel
      leaveTo base
      return .unary operator operand

def memberChain : Nat → Parser Expression
  | 0 => throw .tooDeep
  | fuel + 1 => do
    let base := (← get).depth
    let root ← primary fuel
    let result ← links fuel root
    leaveTo base
    return result

def links : Nat → Expression → Parser Expression
  | 0, _ => throw .tooDeep
  | fuel + 1, object => do
    match ← peek with
    | some .openBracket =>
      skip
      enter
      let key ← conditional fuel
      expect .closeBracket
      links fuel (.index object key false)
    | some .openParenthesis =>
      throw (.callNotAllowed (((← get).rest.head?.map ExpressionToken.offset).getD 0))
    | some .dot =>
      skip
      enter
      let name ← propertyName
      links fuel (.member object name false)
    | some .optionalDot =>
      skip
      enter
      if ← eat .openBracket then
        let key ← conditional fuel
        expect .closeBracket
        links fuel (.index object key true)
      else
        let name ← propertyName
        links fuel (.member object name true)
    | _ => return object

def primary : Nat → Parser Expression
  | 0 => throw .tooDeep
  | fuel + 1 => do
    match ← next? with
    | some ⟨.number x, _⟩ => return .literal (.number x)
    | some ⟨.text s, _⟩ => return .literal (.text s)
    | some ⟨.name name, _⟩ => return .ofName name
    | some ⟨.punctuator .openParenthesis, _⟩ =>
      let inner ← conditional fuel
      expect .closeParenthesis
      return inner
    | token => throw (unexpected token "expression")

end

/-- Fuel for every depth: no construct makes more than eight calls inside each other per level. -/
def fuel : Nat := 8 * (maxDepth + 2)

end Parser

namespace Expression

def ofTokens (tokens : List ExpressionToken) : Except ExpressionError Expression :=
  match Parser.conditional Parser.fuel ⟨tokens, 0⟩ with
  | .error e _ => .error e
  | .ok e s =>
    match s.rest with
    | [] => .ok e
    | token :: _ => .error (Parser.unexpected (some token) "end of expression")

def compile (source : String) : Except ExpressionError Expression :=
  match Lexer.tokens source with
  | .error e => .error e
  | .ok tokens => ofTokens tokens

end Expression

end FieldTags
