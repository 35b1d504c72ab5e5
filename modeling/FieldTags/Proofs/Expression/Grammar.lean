import FieldTags.Expression.Parser
import Mathlib.Tactic.Common

/-!
# The grammar of expressions

Which sequences of tokens make up which expression, said without a parser. A phrase is one of five
kinds, and a derivation says how a phrase is put together from smaller ones. The offsets of tokens
do not matter.

Operators between operands group by their precedence. The right operand of an operator holds only
operators that bind tighter than it does. What the left operand may hold is a parameter of the
grammar: the precedence from which its operators start, given the one that the whole phrase starts
from and that of the operator. Where the left operand starts from the operator's own precedence, the
grammar is stratified and every sequence makes up at most one expression.
-/

namespace FieldTags

/-- The kinds of phrases that an expression is made of. -/
inductive Phrase where
  /-- A whole expression, which may be a choice between two others. -/
  | conditional
  /-- Operands with operators of at least the given precedence between them. -/
  | binary (least : Nat)
  /-- An operand behind any number of prefix operators. -/
  | unary
  /-- A primary expression and any number of accesses behind it. -/
  | chain
  /-- A literal, a name or an expression in parentheses. -/
  | primary
  deriving DecidableEq

/-- From which precedence on the left operand of an operator may hold operators. -/
abbrev LeftLevel := Nat → Nat → Nat

namespace LeftLevel

/-- The left operand may hold whatever the whole phrase may hold. -/
def ofPhrase : LeftLevel := fun least _ ↦ least

/-- The left operand holds only operators that bind at least as tightly as the one behind it. -/
def ofOperator : LeftLevel := fun _ precedence ↦ precedence

end LeftLevel

def Expression.literalWords : List String := ["true", "false", "null", "undefined"]

/-- What a word stands for: a literal if it is one of the words for them, or else the identifier of
its own name. -/
inductive Denotes : String → Expression → Prop
  | true : Denotes "true" (.literal (.bool true))
  | false : Denotes "false" (.literal (.bool false))
  | null : Denotes "null" (.literal .null)
  | undefined : Denotes "undefined" (.literal .undefined)
  | identifier {word : String} (h : word ∉ Expression.literalWords) :
      Denotes word (.identifier word)

/-- Every word denotes the expression that is read for it, and no other. -/
theorem denotes_iff {word : String} {e : Expression} :
    Denotes word e ↔ Expression.ofName word = e := by
  constructor
  · rintro (_ | _ | _ | _ | hword)
    · rfl
    · rfl
    · rfl
    · rfl
    · simp only [Expression.literalWords, List.mem_cons, List.not_mem_nil, or_false, not_or] at hword
      rw [Expression.ofName, if_neg hword.1, if_neg hword.2.1, if_neg hword.2.2.1,
        if_neg hword.2.2.2]
  · rintro rfl
    unfold Expression.ofName
    split_ifs with htrue hfalse hnull hundefined
    · exact htrue ▸ .true
    · exact hfalse ▸ .false
    · exact hnull ▸ .null
    · exact hundefined ▸ .undefined
    · refine .identifier ?_
      simp [Expression.literalWords, htrue, hfalse, hnull, hundefined]

/-- The punctuators that stand in front of an operand, and the operators that they stand for. -/
inductive StandsBefore : Punctuator → UnaryOperator → Prop
  | not : StandsBefore .not .not
  | minus : StandsBefore .minus .negate
  | plus : StandsBefore .plus .plus

theorem standsBefore_iff {p : Punctuator} {operator : UnaryOperator} :
    StandsBefore p operator ↔ p.beforeOperand? = some operator := by
  constructor
  · rintro (_ | _ | _) <;> rfl
  · intro h
    unfold Punctuator.beforeOperand? at h
    split at h <;> cases h
    · exact .not
    · exact .minus
    · exact .plus

/-- The tokens of a phrase of the given kind make up an expression. -/
inductive Derives (leftLevel : LeftLevel) : Phrase → List ExpressionToken → Expression → Prop
  | alone {tokens : List ExpressionToken} {e : Expression} :
      Derives leftLevel (.binary 1) tokens e → Derives leftLevel .conditional tokens e
  /-- A test, a question mark and the two expressions to choose between. -/
  | choice {first second third : List ExpressionToken}
      {test consequent alternate : Expression} (question colon : Nat) :
      Derives leftLevel (.binary 1) first test →
      Derives leftLevel .conditional second consequent →
      Derives leftLevel .conditional third alternate →
      Derives leftLevel .conditional
        (first ++ ⟨.punctuator .question, question⟩ :: (second ++
          ⟨.punctuator .colon, colon⟩ :: third))
        (.conditional test consequent alternate)
  | operand {least : Nat} {tokens : List ExpressionToken} {e : Expression} :
      Derives leftLevel .unary tokens e → Derives leftLevel (.binary least) tokens e
  /-- An operator of sufficient precedence between two operands. -/
  | operation {least precedence : Nat} {p : Punctuator} {operator : InfixOperator}
      {before behind : List ExpressionToken} {left right : Expression} (offset : Nat) :
      p.betweenOperands? = some (precedence, operator) →
      least ≤ precedence →
      Derives leftLevel (.binary (leftLevel least precedence)) before left →
      Derives leftLevel (.binary (precedence + 1)) behind right →
      Derives leftLevel (.binary least) (before ++ ⟨.punctuator p, offset⟩ :: behind)
        (operator.apply left right)
  | bare {tokens : List ExpressionToken} {e : Expression} :
      Derives leftLevel .chain tokens e → Derives leftLevel .unary tokens e
  | prefixed {p : Punctuator} {operator : UnaryOperator} {tokens : List ExpressionToken}
      {e : Expression} (offset : Nat) :
      StandsBefore p operator →
      Derives leftLevel .unary tokens e →
      Derives leftLevel .unary (⟨.punctuator p, offset⟩ :: tokens) (.unary operator e)
  | root {tokens : List ExpressionToken} {e : Expression} :
      Derives leftLevel .primary tokens e → Derives leftLevel .chain tokens e
  | named {tokens : List ExpressionToken} {e : Expression} (name : String) (dot word : Nat) :
      Derives leftLevel .chain tokens e →
      Derives leftLevel .chain (tokens ++ [⟨.punctuator .dot, dot⟩, ⟨.name name, word⟩])
        (.member e name false)
  | optionalNamed {tokens : List ExpressionToken} {e : Expression} (name : String)
      (dot word : Nat) :
      Derives leftLevel .chain tokens e →
      Derives leftLevel .chain (tokens ++ [⟨.punctuator .optionalDot, dot⟩, ⟨.name name, word⟩])
        (.member e name true)
  | computed {tokens inner : List ExpressionToken} {e key : Expression} (opening closing : Nat) :
      Derives leftLevel .chain tokens e →
      Derives leftLevel .conditional inner key →
      Derives leftLevel .chain
        (tokens ++ ⟨.punctuator .openBracket, opening⟩ :: (inner ++
          [⟨.punctuator .closeBracket, closing⟩]))
        (.index e key false)
  | optionalComputed {tokens inner : List ExpressionToken} {e key : Expression}
      (dot opening closing : Nat) :
      Derives leftLevel .chain tokens e →
      Derives leftLevel .conditional inner key →
      Derives leftLevel .chain
        (tokens ++ ⟨.punctuator .optionalDot, dot⟩ :: ⟨.punctuator .openBracket, opening⟩ ::
          (inner ++ [⟨.punctuator .closeBracket, closing⟩]))
        (.index e key true)
  | number (x : Binary64) (offset : Nat) :
      Derives leftLevel .primary [⟨.number x, offset⟩] (.literal (.number x))
  | text (s : String) (offset : Nat) :
      Derives leftLevel .primary [⟨.text s, offset⟩] (.literal (.text s))
  /-- A word that is a literal, or an identifier. -/
  | word {word : String} {e : Expression} (offset : Nat) :
      Denotes word e → Derives leftLevel .primary [⟨.name word, offset⟩] e
  | enclosed {inner : List ExpressionToken} {e : Expression} (opening closing : Nat) :
      Derives leftLevel .conditional inner e →
      Derives leftLevel .primary
        (⟨.punctuator .openParenthesis, opening⟩ :: (inner ++
          [⟨.punctuator .closeParenthesis, closing⟩]))
        e

end FieldTags
