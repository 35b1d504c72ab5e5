import FieldTags.Expression.Evaluation
import Mathlib.Tactic.Common

/-!
# What an expression reads

An expression reads its scope only at the names that it mentions, and its identifiers are exactly
these names. Two scopes that agree there are the same to the expression, whether it has a value or
an error. Evaluation fails only on a value without properties and on a name that the expression
mentions and that has no value.
-/

namespace FieldTags.Expression

/-! ## Identifiers -/

/-- The name stands somewhere in the expression, also in parts that may not be evaluated. -/
def Mentions (name : String) : Expression → Prop
  | .literal _ => False
  | .identifier other => name = other
  | .member object _ _ => object.Mentions name
  | .index object key _ => object.Mentions name ∨ key.Mentions name
  | .unary _ operand => operand.Mentions name
  | .binary _ left right => left.Mentions name ∨ right.Mentions name
  | .logical _ left right => left.Mentions name ∨ right.Mentions name
  | .conditional test consequent alternate =>
    test.Mentions name ∨ consequent.Mentions name ∨ alternate.Mentions name

/-- The collected names are those that were there and those that are mentioned. -/
theorem mem_addIdentifiers {name : String} {names : List String} {e : Expression} :
    name ∈ addIdentifiers names e ↔ name ∈ names ∨ e.Mentions name := by
  induction e generalizing names with
  | literal => simp only [addIdentifiers, Mentions, or_false]
  | identifier other =>
    simp only [addIdentifiers, Mentions, List.contains_iff_mem]
    split_ifs with hother
    · constructor
      · exact Or.inl
      · rintro (h | rfl)
        · exact h
        · exact hother
    · rw [List.mem_append, List.mem_singleton]
  | member object property optional ih => exact ih
  | index object key optional ihObject ihKey =>
    rw [addIdentifiers, ihKey, ihObject, Mentions, or_assoc]
  | unary operator operand ih => exact ih
  | binary operator left right ihLeft ihRight =>
    rw [addIdentifiers, ihRight, ihLeft, Mentions, or_assoc]
  | logical operator left right ihLeft ihRight =>
    rw [addIdentifiers, ihRight, ihLeft, Mentions, or_assoc]
  | conditional test consequent alternate ihTest ihConsequent ihAlternate =>
    rw [addIdentifiers, ihAlternate, ihConsequent, ihTest, Mentions, or_assoc, or_assoc]

/-- The identifiers of an expression are the names that it mentions. -/
theorem mem_identifiers {name : String} {e : Expression} :
    name ∈ e.identifiers ↔ e.Mentions name := by
  rw [identifiers, mem_addIdentifiers, or_iff_right List.not_mem_nil]

/-! ## Scopes that agree -/

variable {scope other : Scope} {e : Expression}

/-- Scopes that agree on the mentioned names give a member chain the same result. -/
theorem evalChain_congr (h : ∀ name, e.Mentions name → scope name = other name) :
    evalChain scope e = evalChain other e := by
  induction e with
  | literal => rfl
  | identifier name =>
    have hname : scope name = other name := h name rfl
    rw [evalChain, evalChain, hname]
  | member object property optional ih => rw [evalChain, evalChain, ih h]
  | index object key optional ihObject ihKey =>
    rw [evalChain, evalChain, ihObject fun name hname ↦ h name (.inl hname),
      ihKey fun name hname ↦ h name (.inr hname)]
  | unary operator operand ih => rw [evalChain, evalChain, ih h]
  | binary operator left right ihLeft ihRight =>
    rw [evalChain, evalChain, ihLeft fun name hname ↦ h name (.inl hname),
      ihRight fun name hname ↦ h name (.inr hname)]
  | logical operator left right ihLeft ihRight =>
    rw [evalChain, evalChain, ihLeft fun name hname ↦ h name (.inl hname),
      ihRight fun name hname ↦ h name (.inr hname)]
  | conditional test consequent alternate ihTest ihConsequent ihAlternate =>
    rw [evalChain, evalChain, ihTest fun name hname ↦ h name (.inl hname),
      ihConsequent fun name hname ↦ h name (.inr (.inl hname)),
      ihAlternate fun name hname ↦ h name (.inr (.inr hname))]

/-- Scopes that agree on the identifiers give an expression the same value or error. -/
theorem value_congr (h : ∀ name ∈ e.identifiers, scope name = other name) :
    e.value scope = e.value other := by
  rw [value, value, evalChain_congr fun name hname ↦ h name (mem_identifiers.mpr hname)]

/-! ## Errors of an evaluation -/

/-- If the result is an error, then it is one of the given ones. -/
def FailsOnly {α : Type} (allowed : ExpressionError → Prop) (result : Except ExpressionError α) :
    Prop :=
  ∀ error, result = .error error → allowed error

section FailsOnly

variable {α β : Type} {allowed more : ExpressionError → Prop}

theorem failsOnly_ok (a : α) : FailsOnly allowed (.ok a) :=
  fun _ h ↦ by cases h

theorem FailsOnly.mono {result : Except ExpressionError α} (h : FailsOnly allowed result)
    (hmore : ∀ error, allowed error → more error) : FailsOnly more result :=
  fun error herror ↦ hmore error (h error herror)

theorem FailsOnly.bind {result : Except ExpressionError α} {f : α → Except ExpressionError β}
    (h : FailsOnly allowed result) (hf : ∀ a, FailsOnly allowed (f a)) :
    FailsOnly allowed (result >>= f) := by
  cases result with
  | error error => exact fun other hother ↦ h other (by cases hother; rfl)
  | ok a => exact hf a

theorem FailsOnly.map {result : Except ExpressionError α} (h : FailsOnly allowed result)
    (f : α → β) : FailsOnly allowed (result.map f) := by
  cases result with
  | error error => exact fun other hother ↦ h other (by cases hother; rfl)
  | ok a => exact failsOnly_ok _

end FailsOnly

/-- An error that evaluating an expression can end in: a value without properties was asked for one,
or the scope does not have a name that the expression mentions. -/
def CanFail (scope : Scope) (e : Expression) (error : ExpressionError) : Prop :=
  (∃ property target, error = .nullAccess property target) ∨
    ∃ name, error = .unknownIdentifier name ∧ e.Mentions name ∧ scope name = none

/-- A part of an expression fails as the expression can. -/
theorem FailsOnly.of_part {α : Type} {part : Expression} {result : Except ExpressionError α}
    (h : FailsOnly (CanFail scope part) result)
    (hpart : ∀ name, part.Mentions name → e.Mentions name) : FailsOnly (CanFail scope e) result :=
  h.mono fun _ ↦ .imp_right fun ⟨name, heq, hmention, hnone⟩ ↦
    ⟨name, heq, hpart name hmention, hnone⟩

/-- Reading a property fails only on a value without properties. -/
theorem failsOnly_readProperty (target : ScriptValue) (key : String) :
    FailsOnly (CanFail scope e) (target.readProperty key) := by
  intro error h
  unfold ScriptValue.readProperty at h
  split at h
  · cases h
  · cases h
    exact .inl ⟨_, _, rfl⟩

/-- Evaluation fails only on a missing name and on a value without properties. -/
theorem evalChain_failsOnly (scope : Scope) (e : Expression) :
    FailsOnly (CanFail scope e) (evalChain scope e) := by
  induction e with
  | literal => exact failsOnly_ok _
  | identifier name =>
    intro error h
    unfold evalChain at h
    split at h
    · cases h
    next hnone =>
      cases h
      exact .inr ⟨name, rfl, rfl, hnone⟩
  | member object property optional ih =>
    refine FailsOnly.bind ih fun found ↦ ?_
    cases found with
    | none => exact failsOnly_ok _
    | some target =>
      dsimp only
      split_ifs
      · exact failsOnly_ok _
      · exact (failsOnly_readProperty target property).bind fun _ ↦ failsOnly_ok _
  | index object key optional ihObject ihKey =>
    refine (ihObject.of_part fun _ ↦ Or.inl).bind fun found ↦ ?_
    cases found with
    | none => exact failsOnly_ok _
    | some target =>
      dsimp only
      split_ifs
      · exact failsOnly_ok _
      · refine (ihKey.of_part fun _ ↦ Or.inr).bind fun property ↦ ?_
        exact (failsOnly_readProperty target _).bind fun _ ↦ failsOnly_ok _
  | unary operator operand ih => exact FailsOnly.bind ih fun _ ↦ failsOnly_ok _
  | binary operator left right ihLeft ihRight =>
    refine (ihLeft.of_part fun _ ↦ Or.inl).bind fun l ↦ ?_
    exact (ihRight.of_part fun _ ↦ Or.inr).bind fun _ ↦ failsOnly_ok _
  | logical operator left right ihLeft ihRight =>
    refine (ihLeft.of_part fun _ ↦ Or.inl).bind fun l ↦ ?_
    dsimp only
    split_ifs
    · exact failsOnly_ok _
    · exact (ihRight.of_part fun _ ↦ Or.inr).bind fun _ ↦ failsOnly_ok _
  | conditional test consequent alternate ihTest ihConsequent ihAlternate =>
    refine (ihTest.of_part fun _ ↦ Or.inl).bind fun t ↦ ?_
    dsimp only
    split_ifs
    · refine (ihConsequent.of_part fun _ h ↦ ?_).bind fun _ ↦ failsOnly_ok _
      exact Or.inr (Or.inl h)
    · refine (ihAlternate.of_part fun _ h ↦ ?_).bind fun _ ↦ failsOnly_ok _
      exact Or.inr (Or.inr h)

/-- The value of an expression fails only as its evaluation can. -/
theorem value_failsOnly (scope : Scope) (e : Expression) :
    FailsOnly (CanFail scope e) (e.value scope) :=
  (evalChain_failsOnly scope e).map _

/-- If the result is the error of an unknown identifier, then this is one of the given names. -/
def UnknownOnly {α : Type} (names : String → Prop) (result : Except ExpressionError α) : Prop :=
  ∀ name, result = .error (.unknownIdentifier name) → names name

section UnknownOnly

variable {α β : Type} {names more : String → Prop}

theorem UnknownOnly.mono {result : Except ExpressionError α} (h : UnknownOnly names result)
    (hmore : ∀ name, names name → more name) : UnknownOnly more result :=
  fun name hname ↦ hmore name (h name hname)

theorem UnknownOnly.map {result : Except ExpressionError α} (h : UnknownOnly names result)
    (f : α → β) : UnknownOnly names (result.map f) := by
  cases result with
  | error error => exact fun name hname ↦ h name (by cases hname; rfl)
  | ok a => exact fun name hname ↦ by cases hname

end UnknownOnly

/-- Only an identifier of the expression can be unknown, and only if the scope does not have it. -/
theorem value_unknownOnly (scope : Scope) (e : Expression) :
    UnknownOnly (fun name ↦ name ∈ e.identifiers ∧ scope name = none) (e.value scope) := by
  intro unknown h
  rcases value_failsOnly scope e _ h with ⟨_, _, heq⟩ | ⟨name, heq, hmention, hnone⟩
  · cases heq
  · cases heq
    exact ⟨mem_identifiers.mpr hmention, hnone⟩

/-! ## The sandbox -/

/-- An expression sees of an object only the members that its identifiers name, and it does not miss
an identifier in a scope that has all of them. -/
theorem eval_reads_only_identifiers (e : Expression) :
    (∀ members others : List (String × Json),
      (∀ name ∈ e.identifiers,
        (Json.object members).member? name = (Json.object others).member? name) →
      e.eval (.ofJson (.object members)) = e.eval (.ofJson (.object others)) ∧
        e.test (.ofJson (.object members)) = e.test (.ofJson (.object others))) ∧
    ∀ scope : Scope, (∀ name ∈ e.identifiers, (scope name).isSome) →
      ∀ name, e.eval scope ≠ .error (.unknownIdentifier name) ∧
        e.test scope ≠ .error (.unknownIdentifier name) := by
  constructor
  · intro members others h
    have hvalue : e.value (.ofJson (.object members)) = e.value (.ofJson (.object others)) :=
      value_congr h
    rw [eval, eval, test, test, hvalue]
    exact ⟨rfl, rfl⟩
  · intro scope hall name
    have hunknown : UnknownOnly (fun _ ↦ False) (e.value scope) := by
      refine (value_unknownOnly scope e).mono fun name h ↦ ?_
      have hsome := hall name h.1
      rw [h.2] at hsome
      cases hsome
    exact ⟨fun h ↦ hunknown.map _ name h, fun h ↦ hunknown.map _ name h⟩

/-- A member beside the row does not change what is read from the row, and the row is known. -/
theorem eval_size_of_row :
    (member (identifier "row") "size" false).eval (.ofJson (.object [("row", .object [])])) =
      (member (identifier "row") "size" false).eval
        (.ofJson (.object [("user", .null), ("row", .object [])])) ∧
    (member (identifier "row") "size" false).test (.ofJson (.object [("row", .object [])])) ≠
      .error (.unknownIdentifier "row") := by
  have hrow (name : String) (h : name ∈ (member (identifier "row") "size" false).identifiers) :
      name = "row" := mem_identifiers.mp h
  constructor
  · refine ((eval_reads_only_identifiers _).1 _ _ fun name h ↦ ?_).1
    rw [hrow name h]
    rfl
  · refine ((eval_reads_only_identifiers _).2 _ (fun name h ↦ ?_) "row").2
    rw [hrow name h]
    rfl

end FieldTags.Expression
