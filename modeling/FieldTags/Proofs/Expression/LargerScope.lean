import FieldTags.Expression.Evaluation
import Mathlib.Tactic.Common

/-!
# Expressions in larger scopes

A scope that gives more names a value does not change what can be evaluated without them: an
expression that has a value keeps it. Only errors can turn into values, since a name that was
missing may then be found.
-/

namespace FieldTags

/-- The other scope has the values of the scope, and may have more. -/
def Scope.Extends (other scope : Scope) : Prop :=
  ∀ name value, scope name = some value → other name = some value

namespace Expression

/-- If the first result is a value, then the second is the same value. -/
def Persists {α : Type} (result later : Except ExpressionError α) : Prop :=
  ∀ a, result = .ok a → later = .ok a

section Persists

variable {α β : Type}

theorem persists_refl (result : Except ExpressionError α) : Persists result result :=
  fun _ h ↦ h

theorem Persists.bind {result later : Except ExpressionError α}
    {f g : α → Except ExpressionError β} (h : Persists result later)
    (hf : ∀ a, Persists (f a) (g a)) : Persists (result >>= f) (later >>= g) := by
  cases result with
  | error error => exact fun b hb ↦ by cases hb
  | ok a =>
    rw [h a rfl]
    exact hf a

theorem Persists.map {result later : Except ExpressionError α} (h : Persists result later)
    (f : α → β) : Persists (result.map f) (later.map f) := by
  cases result with
  | error error => exact fun b hb ↦ by cases hb
  | ok a =>
    rw [h a rfl]
    exact persists_refl _

end Persists

variable {scope other : Scope}

/-- What a member chain gives in a scope, it gives in a larger one. -/
theorem evalChain_persists (hscope : other.Extends scope) (e : Expression) :
    Persists (evalChain scope e) (evalChain other e) := by
  induction e with
  | literal => exact persists_refl _
  | identifier name =>
    intro found h
    unfold evalChain at h ⊢
    split at h
    next value hvalue =>
      rw [hscope name value hvalue]
      exact h
    · cases h
  | member object property optional ih => exact ih.bind fun _ ↦ persists_refl _
  | index object key optional ihObject ihKey =>
    refine ihObject.bind fun found ↦ ?_
    cases found with
    | none => exact persists_refl _
    | some target =>
      dsimp only
      split_ifs
      · exact persists_refl _
      · exact ihKey.bind fun _ ↦ persists_refl _
  | unary operator operand ih => exact ih.bind fun _ ↦ persists_refl _
  | binary operator left right ihLeft ihRight =>
    exact ihLeft.bind fun _ ↦ ihRight.bind fun _ ↦ persists_refl _
  | logical operator left right ihLeft ihRight =>
    refine ihLeft.bind fun l ↦ ?_
    dsimp only
    split_ifs
    · exact persists_refl _
    · exact ihRight.bind fun _ ↦ persists_refl _
  | conditional test consequent alternate ihTest ihConsequent ihAlternate =>
    refine ihTest.bind fun t ↦ ?_
    dsimp only
    split_ifs
    · exact ihConsequent.bind fun _ ↦ persists_refl _
    · exact ihAlternate.bind fun _ ↦ persists_refl _

/-- An expression that counts as true or false in a scope does so in a larger one. -/
theorem test_persists (hscope : other.Extends scope) (e : Expression) :
    Persists (e.test scope) (e.test other) :=
  ((evalChain_persists hscope e).map _).map _

end Expression

end FieldTags
