import FieldTags.Expression.Template
import FieldTags.Proofs.Expression.Spacing

/-!
# When a condition holds

The expression of a condition is what stands between the double braces around it, or all of it. The
condition holds of a row unless this expression is there, compiles and has a value for the row that
counts as false. Every other case counts for the button: a blank text, a text that does not compile
and an evaluation that fails.
-/

namespace FieldTags

/-! ## Results of two steps -/

section Steps

variable {α β : Type} {result : Except ExpressionError α} {f : α → Except ExpressionError β}

theorem Expression.bind_eq_ok_iff {b : β} :
    result.bind f = .ok b ↔ ∃ a, result = .ok a ∧ f a = .ok b := by
  cases result with
  | error error => exact iff_of_false nofun nofun
  | ok a =>
    constructor
    · intro h
      exact ⟨a, rfl, h⟩
    · rintro ⟨_, ha, h⟩
      cases ha
      exact h

theorem Expression.bind_eq_error_iff {error : ExpressionError} :
    result.bind f = .error error ↔
      result = .error error ∨ ∃ a, result = .ok a ∧ f a = .error error := by
  cases result with
  | error found =>
    rw [or_iff_left nofun]
    constructor
    · intro h
      cases h
      rfl
    · intro h
      cases h
      rfl
  | ok a =>
    rw [or_iff_right nofun]
    constructor
    · intro h
      exact ⟨a, rfl, h⟩
    · rintro ⟨_, ha, h⟩
      cases ha
      exact h

end Steps

/-- An expression counts as what its value counts as. -/
theorem Expression.test_eq_ok_iff {scope : Scope} {e : Expression} {truthy : Bool} :
    e.test scope = .ok truthy ↔ ∃ value, e.value scope = .ok value ∧ value.isTruthy = truthy := by
  unfold test
  cases e.value scope with
  | error error => exact iff_of_false nofun nofun
  | ok value =>
    constructor
    · intro h
      cases h
      exact ⟨value, rfl, rfl⟩
    · rintro ⟨_, hvalue, rfl⟩
      cases hvalue
      rfl

/-! ## Blank texts -/

/-- Blanks hold no token. -/
theorem Lexer.tokensFrom_of_all_isBlank {cs : List Char} (h : cs.all Text.isBlank = true)
    (offset : Nat) : tokensFrom offset cs = .ok [] := by
  have hblanks := tokensFrom_blanks h offset []
  rwa [List.append_nil, tokensFrom_nil] at hblanks

/-- A blank text is no expression. -/
theorem Expression.compile_of_allBlank {source : String} (h : Text.allBlank source = true) :
    compile source = .error (.unexpectedEnd "expression") := by
  rw [compile, Lexer.tokens, Lexer.tokensFrom_of_all_isBlank h]
  rfl

/-! ## Braces -/

theorem Template.dropClosing_eq_some_iff {cs body : List Char} :
    dropClosing cs = some body ↔ cs = body ++ ['}', '}'] := by
  constructor
  · intro h
    unfold dropClosing at h
    split at h
    next rest hreverse =>
      cases h
      have hcs := congrArg List.reverse hreverse
      rwa [List.reverse_reverse, List.reverse_cons, List.reverse_cons, List.append_assoc] at hcs
    · cases h
  · rintro rfl
    rw [dropClosing, List.reverse_append]
    simp

/-- A template is a text between double braces, and its body is this text without blanks at its
ends. -/
theorem Template.body?_eq_some_iff {s text : String} :
    body? s = some text ↔ ∃ body, s.toList = ['{', '{'] ++ body ++ ['}', '}'] ∧
      String.ofList (Text.trimChars body) = text := by
  unfold body?
  split
  next rest hs =>
    simp only [hs, Option.map_eq_some_iff, dropClosing_eq_some_iff, List.cons_append,
      List.nil_append, List.cons.injEq, true_and]
  next hother =>
    refine iff_of_false nofun ?_
    rintro ⟨body, hs, -⟩
    exact hother _ hs

namespace Condition

variable {condition text : String} {row : Option Json}

/-- The expression of a condition: the text between the double braces around it, without blanks at
its ends, or the condition itself if no such braces are there. -/
inductive Unwraps (condition : String) : String → Prop where
  | braced {body : List Char}
      (h : (Text.trim condition).toList = ['{', '{'] ++ body ++ ['}', '}']) :
    Unwraps condition (String.ofList (Text.trimChars body))
  | bare (h : ∀ body, (Text.trim condition).toList ≠ ['{', '{'] ++ body ++ ['}', '}']) :
    Unwraps condition condition

/-- Every condition has exactly one expression. -/
theorem unwraps_iff : Unwraps condition text ↔ source condition = text := by
  constructor
  · intro h
    cases h with
    | braced h => rw [source, Template.body?_eq_some_iff.mpr ⟨_, h, rfl⟩, Option.getD_some]
    | bare h =>
      have hnone : Template.body? (Text.trim condition) = none := by
        apply Option.eq_none_iff_forall_ne_some.mpr
        intro found hfound
        obtain ⟨body, hbody, -⟩ := Template.body?_eq_some_iff.mp hfound
        exact h body hbody
      rw [source, hnone, Option.getD_none]
  · rintro rfl
    unfold source
    cases hfound : Template.body? (Text.trim condition) with
    | some found =>
      obtain ⟨body, hbody, rfl⟩ := Template.body?_eq_some_iff.mp hfound
      exact .braced hbody
    | none =>
      apply Unwraps.bare
      intro body hbody
      rw [Template.body?_eq_some_iff.mpr ⟨body, hbody, rfl⟩] at hfound
      cases hfound

/-! ## Outcomes -/

deriving instance DecidableEq for Outcome

/-- The condition is false of the row: its expression is not blank, it compiles, and it has a value
that does not count as true where `row` is the only name. An absent row is an empty object. -/
def Rejects (condition : String) (row : Option Json) : Prop :=
  ∃ text e value, Unwraps condition text ∧ Text.allBlank text = false ∧
    Expression.compile text = .ok e ∧
      e.value (Scope.ofList [("row", row.getD (.object []))]) = .ok value ∧ value.isTruthy = false

/-- A condition fails where its expression does not compile and where its evaluation fails. -/
theorem failed_of_outcome {error : ExpressionError}
    (h : outcome condition row = .failed text error) :
    Expression.compile (source condition) = .error error ∨
      ∃ e, Expression.compile (source condition) = .ok e ∧ e.test (scope row) = .error error := by
  rw [← Expression.bind_eq_error_iff]
  unfold outcome at h
  dsimp only at h
  split_ifs at h
  split at h
  · cases h
  next hresult =>
    cases h
    exact hresult

/-- A condition whose expression is not blank is decided by the truth of it. -/
theorem outcome_decided_iff {truthy : Bool} : outcome condition row = .decided truthy ↔
    Text.allBlank (source condition) = false ∧
      ∃ e, Expression.compile (source condition) = .ok e ∧ e.test (scope row) = .ok truthy := by
  rw [← Expression.bind_eq_ok_iff]
  unfold outcome
  dsimp only
  split_ifs with hblank
  · exact iff_of_false nofun fun h ↦ Bool.false_ne_true (h.1.symm.trans hblank)
  · rw [and_iff_right (Bool.eq_false_iff.mpr hblank)]
    split
    next found hresult =>
      rw [hresult, Outcome.decided.injEq, Except.ok.injEq]
    next found hresult =>
      rw [hresult]
      exact iff_of_false nofun nofun

/-- A condition is false of a row exactly if its expression is not blank and tests as false. -/
theorem holds_eq_false_iff_test : holds condition row = false ↔
    Text.allBlank (source condition) = false ∧
      ∃ e, Expression.compile (source condition) = .ok e ∧ e.test (scope row) = .ok false := by
  rw [← outcome_decided_iff]
  unfold holds
  split
  next h => exact iff_of_false nofun (by rw [h]; nofun)
  next truthy h => rw [h, Outcome.decided.injEq]
  next h => exact iff_of_false nofun (by rw [h]; nofun)

/-- A condition holds of all rows but those that it rejects. -/
theorem holds_eq_false_iff : holds condition row = false ↔ Rejects condition row := by
  rw [holds_eq_false_iff_test]
  constructor
  · rintro ⟨hblank, e, hcompile, htest⟩
    obtain ⟨value, hvalue, htruthy⟩ := Expression.test_eq_ok_iff.mp htest
    exact ⟨_, e, value, unwraps_iff.mpr rfl, hblank, hcompile, hvalue, htruthy⟩
  · rintro ⟨text, e, value, hunwraps, hblank, hcompile, hvalue, htruthy⟩
    rw [unwraps_iff.mp hunwraps]
    exact ⟨hblank, e, hcompile, Expression.test_eq_ok_iff.mpr ⟨value, hvalue, htruthy⟩⟩

end Condition

end FieldTags
