import FieldTags.Expression.Evaluation
import Mathlib.Tactic.Common

/-!
# Member chains

A member chain is an expression with links behind it, each of which leads to a property of the value
before it. Its value is found from left to right: an optional link ends the whole chain where it
meets null or an undefined value, and what stands behind it is not evaluated. The tree of the chain
is evaluated from its last link inwards, where a chain that has ended is told from one whose value is
undefined. The expression in front must be no member access itself: its links would be part of the
chain.
-/

namespace FieldTags

namespace ScriptValue

variable {target : ScriptValue} {key : String}

/-- Exactly null and undefined values have no properties. -/
theorem property?_eq_none_iff : target.property? key = none ↔ target.isNullish = true := by
  cases target with
  | undefined => exact iff_of_true rfl rfl
  | null => exact iff_of_true rfl rfl
  | bool b => exact iff_of_false nofun Bool.false_ne_true
  | number x => exact iff_of_false nofun Bool.false_ne_true
  | text s =>
    refine iff_of_false ?_ Bool.false_ne_true
    rw [property?]
    repeat' split
    all_goals exact nofun
  | reference place target =>
    refine iff_of_false ?_ Bool.false_ne_true
    cases target with
    | array items =>
      rw [property?]
      repeat' split
      all_goals exact nofun
    | object members =>
      rw [property?]
      split <;> exact nofun
    | _ => exact nofun

theorem readProperty_eq (target : ScriptValue) (key : String) :
    target.readProperty key =
      if target.isNullish then .error (.nullAccess key target.kindName)
      else .ok ((target.property? key).getD .undefined) := by
  unfold readProperty
  split
  next value hvalue =>
    have hnot : ¬ target.isNullish = true := by
      intro hnullish
      cases hvalue.symm.trans (property?_eq_none_iff.mpr hnullish)
    rw [if_neg hnot, hvalue, Option.getD_some]
  next hnone => rw [if_pos (property?_eq_none_iff.mp hnone)]

end ScriptValue

namespace Expression

/-! ## Links -/

/-- What stands behind an expression in a member chain. -/
inductive Link where
  | named (property : String) (optional : Bool)
  /-- The property whose name is the text of a value. -/
  | computed (key : Expression) (optional : Bool)

namespace Link

/-- Whether a link ends the chain where there is nothing to access. -/
def isOptional : Link → Bool
  | named _ optional => optional
  | computed _ optional => optional

def access (e : Expression) : Link → Expression
  | named property optional => .member e property optional
  | computed key optional => .index e key optional

/-- The name of the property that a link leads to. -/
def key (scope : Scope) : Link → Except ExpressionError String
  | named property _ => .ok property
  | computed key _ => (key.value scope).map ScriptValue.toText

end Link

/-- The expression with links behind it, of which the first is the innermost access. -/
def withLinks (root : Expression) (links : List Link) : Expression :=
  links.foldl Link.access root

/-- Whether an expression is a member access, named or computed. -/
def isAccess : Expression → Bool
  | .member .. => true
  | .index .. => true
  | _ => false

/-- Follows links from a value, from the first one on. -/
def follow (scope : Scope) (current : ScriptValue) : List Link → Except ExpressionError ScriptValue
  | [] => .ok current
  | link :: rest =>
    if link.isOptional && current.isNullish then .ok .undefined
    else do
      let key ← link.key scope
      if current.isNullish then .error (.nullAccess key current.kindName)
      else follow scope ((current.property? key).getD .undefined) rest

/-! ## Evaluating chains -/

variable {scope : Scope}

/-- Where a link leads from a value; nowhere if it ends the chain. -/
def Link.step (scope : Scope) (current : ScriptValue) (link : Link) :
    Except ExpressionError (Option ScriptValue) :=
  if link.isOptional && current.isNullish then .ok none
  else (link.key scope).bind fun key ↦ (current.readProperty key).map some

/-- The last link of a tree is followed from the value in front of it, if its chain goes so far. -/
theorem evalChain_access (e : Expression) (link : Link) :
    evalChain scope (link.access e) = (evalChain scope e).bind fun found ↦
      found.elim (.ok none) fun current ↦ link.step scope current := by
  cases link with
  | named property optional =>
    rw [Link.access, evalChain]
    cases evalChain scope e with
    | error error => rfl
    | ok found => cases found <;> rfl
  | computed key optional =>
    rw [Link.access, evalChain]
    cases evalChain scope e with
    | error error => rfl
    | ok found =>
      cases found with
      | none => rfl
      | some current =>
        dsimp only [Except.bind, Option.elim]
        rw [Link.step, Link.key, value]
        cases evalChain scope key <;> rfl

/-- The first link is followed first, and the others from where it leads. -/
theorem follow_cons (current : ScriptValue) (link : Link) (rest : List Link) :
    follow scope current (link :: rest) = (link.step scope current).bind fun found ↦
      found.elim (.ok .undefined) fun next ↦ follow scope next rest := by
  rw [follow, Link.step]
  split
  · rfl
  · cases link.key scope with
    | error error => rfl
    | ok key =>
      dsimp only [bind, Except.bind]
      rw [ScriptValue.readProperty_eq]
      cases current.isNullish <;> rfl

/-- Links are followed from the value in front of them, if its chain has not ended before. -/
theorem value_withLinks_eq_bind (e : Expression) (links : List Link) :
    (e.withLinks links).value scope = (evalChain scope e).bind fun found ↦
      found.elim (.ok .undefined) fun current ↦ follow scope current links := by
  -- The first link becomes part of the tree in front of the others, which the hypothesis is about.
  induction links generalizing e with
  | nil =>
    have hnil : e.withLinks [] = e := rfl
    rw [hnil, value]
    cases evalChain scope e with
    | error error => rfl
    | ok found => cases found <;> rfl
  | cons link rest ih =>
    have hcons : e.withLinks (link :: rest) = (link.access e).withLinks rest := rfl
    rw [hcons, ih, evalChain_access]
    cases evalChain scope e with
    | error error => rfl
    | ok found =>
      cases found with
      | none => rfl
      | some current => exact (follow_cons current link rest).symm

/-- Only a member access can end a chain. -/
theorem evalChain_of_not_isAccess {root : Expression} (h : root.isAccess = false) :
    evalChain scope root = (root.value scope).map some := by
  cases root with
  | literal => rfl
  | identifier name =>
    rw [value, evalChain]
    split <;> rfl
  | member => cases h
  | index => cases h
  | unary operator operand =>
    rw [value, evalChain]
    cases evalChain scope operand <;> rfl
  | binary operator left right =>
    rw [value, evalChain]
    cases evalChain scope left with
    | error error => rfl
    | ok l => cases evalChain scope right <;> rfl
  | logical operator left right =>
    rw [value, evalChain]
    cases evalChain scope left with
    | error error => rfl
    | ok l =>
      dsimp only [bind, Except.bind]
      split
      · rfl
      · cases evalChain scope right <;> rfl
  | conditional test consequent alternate =>
    rw [value, evalChain]
    cases evalChain scope test with
    | error error => rfl
    | ok t =>
      dsimp only [bind, Except.bind]
      split
      · cases evalChain scope consequent <;> rfl
      · cases evalChain scope alternate <;> rfl

/-- The value of a member chain is found by following its links, from the first one on, from the
value of its root. -/
theorem value_withLinks (scope : Scope) {root : Expression} (h : root.isAccess = false)
    (links : List Link) :
    (root.withLinks links).value scope =
      (root.value scope).bind fun current ↦ follow scope current links := by
  rw [value_withLinks_eq_bind, evalChain_of_not_isAccess h]
  cases root.value scope <;> rfl

/-- A row without an owner. -/
def unownedRow : Scope :=
  .ofList [("row", .object [("owner", .null)])]

/-- Behind an optional access to the missing owner, neither the unknown key nor the name is looked
for. A key that is itself a chain that has ended is found before its property is missed. -/
theorem value_withLinks_unownedRow :
    ((identifier "row").withLinks [.named "owner" false, .computed (.identifier "key") true,
        .named "name" false]).value unownedRow = .ok .undefined ∧
      ((identifier "row").withLinks [.named "owner" false,
        .computed ((identifier "row").withLinks [.named "owner" false, .named "id" true]) false,
        .named "name" true]).value unownedRow = .error (.nullAccess "undefined" "null") := by
  constructor
  · rw [value_withLinks unownedRow rfl]
    rfl
  · rw [value_withLinks unownedRow rfl]
    rfl

end Expression

end FieldTags
