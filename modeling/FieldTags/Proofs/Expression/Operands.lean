import FieldTags.Proofs.Expression.MemberChains

/-!
# Values of operands

An operator is applied to the values of its operands, and a property is read from the value in front
of it. Only an undefined value can stand for a member chain that has ended.
-/

namespace FieldTags.Expression

variable {scope : Scope} {e left right key : Expression} {target l r k : ScriptValue}

theorem exists_evalChain_of_value (h : e.value scope = .ok target) :
    ∃ found, evalChain scope e = .ok found ∧ chainValue found = target := by
  rw [value] at h
  cases hchain : evalChain scope e with
  | error error =>
    rw [hchain] at h
    cases h
  | ok found =>
    rw [hchain] at h
    exact ⟨found, rfl, Except.ok.inj h⟩

/-- An expression whose value is defined is no chain that has ended. -/
theorem evalChain_of_value (h : e.value scope = .ok target) (htarget : target.isNullish = false) :
    evalChain scope e = .ok (some target) := by
  obtain ⟨found, hfound, rfl⟩ := exists_evalChain_of_value h
  cases found with
  | none => cases htarget
  | some value => exact hfound

theorem value_unary (operator : UnaryOperator) (h : e.value scope = .ok target) :
    (unary operator e).value scope = .ok (operator.apply target) := by
  obtain ⟨found, hfound, rfl⟩ := exists_evalChain_of_value h
  rw [value, evalChain, hfound]
  rfl

theorem value_binary (operator : BinaryOperator) (hl : left.value scope = .ok l)
    (hr : right.value scope = .ok r) :
    (binary operator left right).value scope = .ok (operator.apply l r) := by
  obtain ⟨first, hfirst, rfl⟩ := exists_evalChain_of_value hl
  obtain ⟨second, hsecond, rfl⟩ := exists_evalChain_of_value hr
  rw [value, evalChain, hfirst, hsecond]
  rfl

/-- A link leads from a value to its property. -/
theorem value_access {link : Link} {name : String} (h : e.value scope = .ok target)
    (htarget : target.isNullish = false) (hkey : link.key scope = .ok name) :
    (link.access e).value scope = .ok ((target.property? name).getD .undefined) := by
  rw [value, evalChain_access, evalChain_of_value h htarget]
  dsimp only [Except.bind, Option.elim]
  rw [Link.step, htarget, Bool.and_false, if_neg Bool.false_ne_true, hkey]
  dsimp only [Except.bind]
  rw [ScriptValue.readProperty_eq, htarget, if_neg Bool.false_ne_true]
  rfl

theorem value_member (property : String) (h : e.value scope = .ok target)
    (htarget : target.isNullish = false) :
    (member e property false).value scope = .ok ((target.property? property).getD .undefined) := by
  have hname : (Link.named property false).key scope = .ok property := rfl
  exact value_access h htarget hname

theorem value_index (h : e.value scope = .ok target) (htarget : target.isNullish = false)
    (hkey : key.value scope = .ok k) :
    (index e key false).value scope = .ok ((target.property? k.toText).getD .undefined) := by
  have hname : (Link.computed key false).key scope = .ok k.toText := by
    rw [Link.key, hkey]
    rfl
  exact value_access h htarget hname

end FieldTags.Expression
