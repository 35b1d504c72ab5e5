import FieldTags.Expression.Evaluation
import FieldTags.Proofs.Number.Integers

/-!
# The truth of a value and of its data

An expression counts as true or false by its value, and the data that is made of the value counts as
true or false as well. Both agree on every value that evaluation can give, since a reference always
leads to an array or object, with one exception: JSON has no infinite numbers. An infinite value
counts as true, but its data is null.
-/

namespace FieldTags

namespace ScriptValue

/-- A reference leads to an array or object. -/
def LeadsToContainer : ScriptValue → Prop
  | .reference _ (.array _) => True
  | .reference _ (.object _) => True
  | .reference _ _ => False
  | _ => True

theorem leadsToContainer_ofJson (place : Place) (value : Json) :
    (ofJson place value).LeadsToContainer := by
  cases value <;> exact trivial

theorem leadsToContainer_property? {target value : ScriptValue} {key : String}
    (h : target.property? key = some value) : value.LeadsToContainer := by
  unfold property? at h
  repeat' split at h
  all_goals cases h
  all_goals first
    | exact trivial
    | exact leadsToContainer_ofJson _ _

theorem leadsToContainer_add (left right : ScriptValue) : (left.add right).LeadsToContainer := by
  unfold add
  split <;> exact trivial

/-- A finite number counts as its data does. -/
theorem isTruthy_ofCalculation {x : Binary64} (h : x.isFinite = true) :
    (Json.ofCalculation x).isTruthy = (number x).isTruthy := by
  rcases Json.ofCalculation_cases h with ⟨n, inRange, hwhole, hdata⟩ | hdata
  · have hnearest := Binary64.ofInt_of_toInt? hwhole
    rw [hdata, Json.isTruthy, JsonNumber.toBinary64, hnearest, isTruthy]
    by_cases hzero : x.isZero = true
    · rw [if_pos hzero, hzero]
      rfl
    · rw [if_neg hzero]
  · rw [hdata]
    rfl

theorem ofCalculation_infinity (negative : Bool) :
    Json.ofCalculation (.infinity negative) = .null := by
  have hwhole : (Binary64.infinity negative).toInt? = none := by
    rw [Binary64.infinity, Binary64.toInt?, decide_eq_false (Nat.lt_irrefl _), Bool.false_and]
    rfl
  have hfinite : ¬ (Binary64.infinity negative).isFinite = true := by
    rw [Binary64.infinity, Binary64.isFinite, decide_eq_false (Nat.lt_irrefl _)]
    exact Bool.false_ne_true
  rw [Json.ofCalculation, hwhole]
  dsimp only
  rw [Json.ofBinary64, JsonNumber.ofBinary64?, dif_neg hfinite]

/-- A value counts as its data does unless it is infinite. -/
theorem isTruthy_toJson? {value : ScriptValue} (h : value.LeadsToContainer)
    (hfinite : ∀ negative, value ≠ .number (.infinity negative)) :
    value.toJson?.any Json.isTruthy = value.isTruthy := by
  cases value with
  | undefined => rfl
  | null => rfl
  | bool b => rfl
  | text s => rfl
  | reference place target =>
    cases target with
    | array items => rfl
    | object members => rfl
    | _ => exact h.elim
  | number x =>
    cases x with
    | nan => rfl
    | signed negative rank hrank =>
      by_cases hrank_lt : rank < Binary64.infinityRank
      · exact isTruthy_ofCalculation (decide_eq_true hrank_lt)
      · obtain rfl := Nat.le_antisymm hrank (Nat.not_lt.mp hrank_lt)
        exact absurd rfl (hfinite negative)

end ScriptValue

namespace Expression

/-- If the result is a value, then it is a good one. -/
def Returns {α : Type} (good : α → Prop) (result : Except ExpressionError α) : Prop :=
  ∀ a, result = .ok a → good a

section Returns

variable {α β : Type} {good : α → Prop} {fine : β → Prop}

theorem returns_ok {a : α} (h : good a) : Returns good (.ok a) := by
  intro b hb
  cases hb
  exact h

theorem Returns.bind {result : Except ExpressionError α} {f : α → Except ExpressionError β}
    (h : Returns good result) (hf : ∀ a, good a → Returns fine (f a)) :
    Returns fine (result >>= f) := by
  cases result with
  | error error => exact fun b hb ↦ by cases hb
  | ok a => exact hf a (h a rfl)

end Returns

variable {scope : Scope} {e : Expression}

theorem returns_readProperty (target : ScriptValue) (key : String) :
    Returns ScriptValue.LeadsToContainer (target.readProperty key) := by
  intro value h
  unfold ScriptValue.readProperty at h
  split at h
  next hvalue =>
    cases h
    exact ScriptValue.leadsToContainer_property? hvalue
  · cases h

/-- What has been found, if anything, leads to an array or object if it is a reference. -/
def FoundLeads (found : Option ScriptValue) : Prop :=
  (chainValue found).LeadsToContainer

/-- No evaluation gives a reference to a scalar. -/
theorem evalChain_returns (scope : Scope) (e : Expression) :
    Returns FoundLeads (evalChain scope e) := by
  have hnone : FoundLeads none := trivial
  induction e with
  | literal value => cases value <;> exact returns_ok trivial
  | identifier name =>
    unfold evalChain
    split
    · exact returns_ok (ScriptValue.leadsToContainer_ofJson _ _)
    · exact nofun
  | member object property optional ih =>
    refine ih.bind fun found _ ↦ ?_
    cases found with
    | none => exact returns_ok hnone
    | some target =>
      dsimp only
      split
      · exact returns_ok hnone
      · exact (returns_readProperty target property).bind fun _ h ↦ returns_ok h
  | index object key optional ihObject ihKey =>
    refine ihObject.bind fun found _ ↦ ?_
    cases found with
    | none => exact returns_ok hnone
    | some target =>
      dsimp only
      split
      · exact returns_ok hnone
      · refine ihKey.bind fun property _ ↦ ?_
        exact (returns_readProperty target _).bind fun _ h ↦ returns_ok h
  | unary operator operand ih =>
    refine ih.bind fun found _ ↦ returns_ok ?_
    cases operator <;> exact trivial
  | binary operator left right ihLeft ihRight =>
    refine ihLeft.bind fun l _ ↦ ihRight.bind fun r _ ↦ returns_ok ?_
    cases operator with
    | add => exact ScriptValue.leadsToContainer_add _ _
    | _ => exact trivial
  | logical operator left right ihLeft ihRight =>
    refine ihLeft.bind fun l hl ↦ ?_
    dsimp only
    split
    · exact returns_ok hl
    · exact ihRight.bind fun r hr ↦ returns_ok hr
  | conditional test consequent alternate ihTest ihConsequent ihAlternate =>
    refine ihTest.bind fun t _ ↦ ?_
    dsimp only
    split
    · exact ihConsequent.bind fun _ h ↦ returns_ok h
    · exact ihAlternate.bind fun _ h ↦ returns_ok h

theorem value_returns (scope : Scope) (e : Expression) :
    Returns ScriptValue.LeadsToContainer (e.value scope) := by
  intro value h
  unfold Expression.value at h
  cases hchain : evalChain scope e with
  | error error =>
    rw [hchain] at h
    cases h
  | ok found =>
    rw [hchain] at h
    cases h
    exact evalChain_returns scope e found hchain

/-- Where evaluation succeeds, an expression counts as its data does, where undefined data counts as
false, unless its value is infinite: then it counts as true and its data is null. -/
theorem test_eq_truth_of_eval {data : Option Json} (h : e.eval scope = .ok data) :
    ((∀ negative, e.value scope ≠ .ok (.number (.infinity negative))) →
      e.test scope = .ok (data.any Json.isTruthy)) ∧
    ∀ negative, e.value scope = .ok (.number (.infinity negative)) →
      e.test scope = .ok true ∧ data = some .null := by
  rw [eval] at h
  rw [test]
  cases hvalue : e.value scope with
  | error error =>
    rw [hvalue] at h
    cases h
  | ok value =>
    rw [hvalue] at h
    cases h
    constructor
    · intro hfinite
      have hleads : value.LeadsToContainer := value_returns scope e value hvalue
      have hnot (negative : Bool) : value ≠ .number (.infinity negative) :=
        fun heq ↦ hfinite negative (congrArg Except.ok heq)
      rw [Except.map, ScriptValue.isTruthy_toJson? hleads hnot]
    · intro negative hinfinite
      cases hinfinite
      exact ⟨rfl, congrArg some (ScriptValue.ofCalculation_infinity negative)⟩

/-- How many of the items in stock are left. -/
def stockLeft : Expression :=
  .binary .subtract (.member (.identifier "row") "stock" false)
    (.member (.identifier "row") "reserved" false)

/-- A row of which all seven items are reserved. -/
def soldOut : Scope :=
  .ofList [("row", .object [("reserved", .number (.integer 7 (by decide))),
    ("stock", .number (.integer 7 (by decide)))])]

/-- A difference of zero counts as false, as the zero in its data does. -/
theorem test_stockLeft_soldOut : stockLeft.test soldOut = .ok false := by
  have hvalue : stockLeft.value soldOut =
      .ok (.number ((Binary64.ofInt 7).sub (.ofInt 7))) := rfl
  have hzero : (Binary64.ofInt 7).sub (.ofInt 7) = .zeroOfSign false := by decide +kernel
  rw [hzero] at hvalue
  have heval : stockLeft.eval soldOut = .ok (some (.ofCalculation (.zeroOfSign false))) := by
    rw [eval, hvalue]
    rfl
  have hfinite (negative : Bool) :
      stockLeft.value soldOut ≠ .ok (.number (.infinity negative)) := by
    intro heq
    rw [hvalue] at heq
    cases heq
  have hfalse : (some (Json.ofCalculation (.zeroOfSign false))).any Json.isTruthy = false := by
    decide +kernel
  rw [(test_eq_truth_of_eval heval).1 hfinite, hfalse]

/-- A number that is divided by zero. -/
def overZero : Expression :=
  .binary .divide (.literal (.number (.ofNat 1))) (.literal (.number (.ofNat 0)))

/-- The infinite quotient counts as true, but its data is null. -/
theorem not_forall_test_eq_truth_of_eval :
    ¬ ∀ (scope : Scope) (e : Expression) (data : Option Json), e.eval scope = .ok data →
      e.test scope = .ok (data.any Json.isTruthy) := by
  intro h
  have hvalue : overZero.value (.ofList []) =
      .ok (.number ((Binary64.ofNat 1).div (.ofNat 0))) := rfl
  have hinfinite : (Binary64.ofNat 1).div (.ofNat 0) = .infinity false := by decide +kernel
  rw [hinfinite] at hvalue
  have heval : overZero.eval (.ofList []) = .ok (some .null) := by
    rw [eval, hvalue, Except.map, ScriptValue.toJson?, ScriptValue.ofCalculation_infinity]
  have htest : overZero.test (.ofList []) = .ok true := by
    rw [test, hvalue]
    rfl
  have hfalse := h _ _ _ heval
  rw [htest] at hfalse
  cases hfalse

end Expression

end FieldTags
