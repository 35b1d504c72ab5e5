import FieldTags.Proofs.Expression.MemberChains
import FieldTags.Proofs.Number.Integers

/-!
# The laws of the equality operators

Strict equality compares values of one kind. It is symmetric and transitive, and only what is not a
number differs from itself; no value that is read from a scope is of this sort. Loose equality
replaces one value at a time, a truth value by its number and an array or object by its text, until
it can decide. It has decided after two replacements at the latest, it gives the same answer from
both sides, and it holds wherever strict equality does.
-/

namespace FieldTags

namespace Binary64

variable {x y z : Binary64}

/-- Numbers are equal if they stand at the same position. -/
theorem equals_iff : x.equals y = true ↔ ∃ p, x.position? = some p ∧ y.position? = some p := by
  rw [equals, compare?, beq_iff_eq]
  cases x.position? with
  | none => exact iff_of_false nofun fun ⟨_, h, _⟩ ↦ nomatch h
  | some p =>
    cases y.position? with
    | none => exact iff_of_false nofun fun ⟨_, _, h⟩ ↦ nomatch h
    | some q =>
      simp only [Option.some.injEq, compare_eq_iff_eq, exists_eq_left']
      exact eq_comm

theorem equals_comm (x y : Binary64) : x.equals y = y.equals x := by
  rw [Bool.eq_iff_iff, equals_iff, equals_iff]
  simp only [and_comm]

theorem equals_trans (hxy : x.equals y = true) (hyz : y.equals z = true) : x.equals z = true := by
  obtain ⟨p, hx, hy⟩ := equals_iff.mp hxy
  obtain ⟨q, hy', hz⟩ := equals_iff.mp hyz
  obtain rfl : p = q := Option.some.inj (hy.symm.trans hy')
  exact equals_iff.mpr ⟨p, hx, hz⟩

/-- Exactly what is a number is equal to itself. -/
theorem equals_self_iff : x.equals x = true ↔ x.isNaN = false := by
  rw [equals_iff]
  cases x with
  | nan => simp [position?, isNaN]
  | signed negative rank hrank => cases negative <;> simp [position?, isNaN]

end Binary64

namespace ScriptValue

/-! ## Strict equality -/

theorem strictEquals_comm (left right : ScriptValue) :
    left.strictEquals right = right.strictEquals left := by
  cases left with
  | undefined => cases right <;> rfl
  | null => cases right <;> rfl
  | bool a =>
    cases right with
    | bool b => exact BEq.comm
    | _ => rfl
  | number x =>
    cases right with
    | number y => exact Binary64.equals_comm x y
    | _ => rfl
  | text s =>
    cases right with
    | text t => exact BEq.comm
    | _ => rfl
  | reference p target =>
    cases right with
    | reference q other => exact BEq.comm
    | _ => rfl

/-- Strictly equal values are of one kind. -/
theorem strictEquals_cases {left right : ScriptValue} (h : left.strictEquals right = true) :
    (left = .undefined ∧ right = .undefined) ∨ (left = .null ∧ right = .null) ∨
      (∃ b, left = .bool b ∧ right = .bool b) ∨
      (∃ x y, left = .number x ∧ right = .number y ∧ x.equals y = true) ∨
      (∃ s, left = .text s ∧ right = .text s) ∨
      ∃ place target other, left = .reference place target ∧ right = .reference place other := by
  cases left <;> cases right <;> simp_all [strictEquals]

theorem strictEquals_trans {a b c : ScriptValue} (hab : a.strictEquals b = true)
    (hbc : b.strictEquals c = true) : a.strictEquals c = true := by
  rcases strictEquals_cases hab with ⟨rfl, rfl⟩ | ⟨rfl, rfl⟩ | ⟨_, rfl, rfl⟩ |
    ⟨x, y, rfl, rfl, hxy⟩ | ⟨_, rfl, rfl⟩ | ⟨place, _, _, rfl, rfl⟩
  · exact hbc
  · exact hbc
  · exact hbc
  · cases c with
    | number z => exact Binary64.equals_trans hxy hbc
    | _ => cases hbc
  · exact hbc
  · cases c with
    | reference other _ => exact hbc
    | _ => cases hbc

/-- Exactly what is not a number differs from itself. -/
theorem strictEquals_self_iff {value : ScriptValue} :
    value.strictEquals value = true ↔ value ≠ .number .nan := by
  cases value with
  | number x =>
    rw [strictEquals, Binary64.equals_self_iff]
    cases x <;> simp [Binary64.isNaN]
  | undefined => simp [strictEquals]
  | null => simp [strictEquals]
  | bool b => simp [strictEquals]
  | text s => simp [strictEquals]
  | reference place target => simp [strictEquals]

/-! ## Values that are read -/

theorem ofJson_ne_nan (place : Place) (value : Json) : ofJson place value ≠ .number .nan := by
  cases value with
  | number n =>
    intro h
    have hnan : n.toBinary64 = .nan := ScriptValue.number.inj h
    have hnumber := Binary64.isNaN_of_isFinite n.isFinite_toBinary64
    rw [hnan] at hnumber
    cases hnumber
  | _ => exact nofun

theorem property?_ne_nan {target value : ScriptValue} {key : String}
    (h : target.property? key = some value) : value ≠ .number .nan := by
  unfold property? at h
  repeat' split at h
  all_goals cases h
  all_goals first
    | exact ofJson_ne_nan _ _
    | exact nofun

/-! ## Loose equality -/

/-- What loose equality does with two values. -/
inductive EqualityStep where
  | answer (equal : Bool)
  /-- It goes on with a pair in which one of the values is replaced. -/
  | replace (left right : ScriptValue)

/-- The text that an array or object is replaced by, as a value. -/
def asText (value : ScriptValue) : ScriptValue :=
  .text value.toText

/--
One step of loose equality. Null and undefined values are told from all others first. A truth value
is replaced by its number, and an array or object that is compared with a number or a text by its
text. Of two truth values the first is replaced first.
-/
def looseStep (left right : ScriptValue) : EqualityStep :=
  if left.isNullish || right.isNullish then .answer (left.isNullish && right.isNullish)
  else
    match left, right with
    | .number x, .text t => .answer (x.equals (ScriptValue.text t).toNumber)
    | .text s, .number y => .answer ((ScriptValue.text s).toNumber.equals y)
    | .bool a, right => .replace (.number (ScriptValue.bool a).toNumber) right
    | left, .bool b => .replace left (.number (ScriptValue.bool b).toNumber)
    | .reference p target, .number y => .replace (reference p target).asText (.number y)
    | .reference p target, .text t => .replace (reference p target).asText (.text t)
    | .number x, .reference q other => .replace (.number x) (reference q other).asText
    | .text s, .reference q other => .replace (.text s) (reference q other).asText
    | left, right => .answer (left.strictEquals right)

/-- Loose equality of two values comes to an answer after so many replacements. -/
inductive Settles : ScriptValue → ScriptValue → Nat → Bool → Prop where
  | answer {left right : ScriptValue} {equal : Bool}
    (h : looseStep left right = .answer equal) : Settles left right 0 equal
  | replace {left right left' right' : ScriptValue} {count : Nat} {equal : Bool}
    (h : looseStep left right = .replace left' right') (rest : Settles left' right' count equal) :
    Settles left right (count + 1) equal

/-- How many replacements a value can still be in for. -/
def pending : ScriptValue → Nat
  | .bool _ => 1
  | .reference _ _ => 1
  | _ => 0

theorem pending_le_one (value : ScriptValue) : value.pending ≤ 1 := by
  cases value <;> simp [pending]

/-- A step gives the answer, or it replaces a value and keeps the answer. -/
theorem looseStep_cases (left right : ScriptValue) :
    looseStep left right = .answer (left.looseEquals right) ∨
      ∃ left' right', looseStep left right = .replace left' right' ∧
        left'.looseEquals right' = left.looseEquals right ∧
        left'.pending + right'.pending < left.pending + right.pending := by
  cases left with
  | undefined => exact .inl (by cases right <;> rfl)
  | null => exact .inl (by cases right <;> rfl)
  | bool a =>
    cases right with
    | undefined | null => exact .inl rfl
    | _ => exact .inr ⟨_, _, rfl, rfl, Nat.lt_add_one _⟩
  | number x =>
    cases right with
    | bool _ | reference _ _ => exact .inr ⟨_, _, rfl, rfl, Nat.lt_add_one _⟩
    | _ => exact .inl rfl
  | text s =>
    cases right with
    | bool _ | reference _ _ => exact .inr ⟨_, _, rfl, rfl, Nat.lt_add_one _⟩
    | _ => exact .inl rfl
  | reference p target =>
    cases right with
    | bool _ | number _ | text _ => exact .inr ⟨_, _, rfl, rfl, Nat.lt_add_one _⟩
    | _ => exact .inl rfl

/-- An answer comes after as many replacements as the values are in for, or earlier. -/
theorem exists_settles (left right : ScriptValue) :
    ∃ count ≤ left.pending + right.pending,
      Settles left right count (left.looseEquals right) := by
  rcases looseStep_cases left right with hanswer | ⟨left', right', hreplace, hequal, hless⟩
  · exact ⟨0, Nat.zero_le _, .answer hanswer⟩
  · obtain ⟨count, hcount, hrest⟩ := exists_settles left' right'
    rw [hequal] at hrest
    exact ⟨count + 1, by omega, .replace hreplace hrest⟩
termination_by left.pending + right.pending

/-- There is no other answer. -/
theorem Settles.eq_looseEquals {left right : ScriptValue} {count : Nat} {equal : Bool}
    (h : Settles left right count equal) : equal = left.looseEquals right := by
  induction h with
  | @answer left right equal h =>
    rcases looseStep_cases left right with hanswer | ⟨left', right', hreplace, -⟩
    · exact EqualityStep.answer.inj (h.symm.trans hanswer)
    · cases h.symm.trans hreplace
  | @replace left right next other count equal h rest ih =>
    rcases looseStep_cases left right with hanswer | ⟨left', right', hreplace, hequal, -⟩
    · cases h.symm.trans hanswer
    · obtain ⟨rfl, rfl⟩ := EqualityStep.replace.inj (h.symm.trans hreplace)
      exact ih.trans hequal

theorem looseEqualsScalar_comm (left right : ScriptValue) :
    looseEqualsScalar left right = looseEqualsScalar right left := by
  have hstrict := strictEquals_comm left right
  cases left with
  | number x =>
    cases right with
    | text t => exact Binary64.equals_comm _ _
    | _ => exact hstrict
  | text s =>
    cases right with
    | number y => exact Binary64.equals_comm _ _
    | _ => exact hstrict
  | _ => cases right <;> exact hstrict

theorem looseEquals_comm (left right : ScriptValue) :
    left.looseEquals right = right.looseEquals left := by
  have hscalar := looseEqualsScalar_comm (unboxBool left).toScalar (unboxBool right).toScalar
  cases left with
  | undefined => cases right <;> rfl
  | null => cases right <;> rfl
  | bool a =>
    cases right with
    | undefined | null => rfl
    | _ => exact hscalar
  | number x =>
    cases right with
    | undefined | null => rfl
    | _ => exact hscalar
  | text s =>
    cases right with
    | undefined | null => rfl
    | _ => exact hscalar
  | reference p target =>
    cases right with
    | undefined | null => rfl
    | reference q other => exact strictEquals_comm (.reference p target) (.reference q other)
    | _ => exact hscalar

theorem looseEquals_of_strictEquals {left right : ScriptValue}
    (h : left.strictEquals right = true) : left.looseEquals right = true := by
  rcases strictEquals_cases h with ⟨rfl, rfl⟩ | ⟨rfl, rfl⟩ | ⟨b, rfl, rfl⟩ |
    ⟨x, y, rfl, rfl, hxy⟩ | ⟨s, rfl, rfl⟩ | ⟨place, target, other, rfl, rfl⟩
  · rfl
  · rfl
  · have hself : (number (bool b).toNumber).strictEquals (number (bool b).toNumber) = true :=
      strictEquals_self_iff.mpr nofun
    exact hself
  · exact hxy
  · exact h
  · exact h

/-- Only null and undefined values are loosely equal to them. -/
theorem looseEquals_of_isNullish {left right : ScriptValue} (h : right.isNullish = true) :
    left.looseEquals right = left.isNullish := by
  unfold looseEquals
  rw [h, Bool.or_true, if_pos rfl, Bool.and_true]

end ScriptValue

namespace Expression

/-- What links lead to from a number, if they lead to a number, is a number. -/
theorem ne_nan_of_follow {scope : Scope} {links : List Link} {current value : ScriptValue}
    (h : follow scope current links = .ok value) (hcurrent : current ≠ .number .nan) :
    value ≠ .number .nan := by
  induction links generalizing current with
  | nil =>
    cases h
    exact hcurrent
  | cons link rest ih =>
    rw [follow] at h
    split at h
    · cases h
      rintro ⟨⟩
    · cases hkey : link.key scope with
      | error error =>
        rw [hkey] at h
        cases h
      | ok key =>
        rw [hkey] at h
        dsimp only [bind, Except.bind] at h
        split at h
        · cases h
        · apply ih h
          cases hnext : current.property? key with
          | none => rintro ⟨⟩
          | some next => exact ScriptValue.property?_ne_nan hnext

/-- What is read from a scope, by its name or by a chain of links behind it, is equal to itself. -/
theorem strictEquals_self_of_read {scope : Scope} {name : String} {links : List Link}
    {value : ScriptValue} (h : ((identifier name).withLinks links).value scope = .ok value) :
    value.strictEquals value = true := by
  rw [ScriptValue.strictEquals_self_iff]
  rw [value_withLinks_eq_bind, evalChain] at h
  cases hnamed : scope name with
  | none =>
    rw [hnamed] at h
    cases h
  | some target =>
    rw [hnamed] at h
    exact ne_nan_of_follow h (ScriptValue.ofJson_ne_nan _ target)

end Expression

namespace ScriptValue

/-- What the equality operators of the language can be relied on for. -/
structure LawfulEqualities : Prop where
  strict_comm : ∀ left right : ScriptValue, left.strictEquals right = right.strictEquals left
  strict_trans : ∀ a b c : ScriptValue,
    a.strictEquals b = true → b.strictEquals c = true → a.strictEquals c = true
  /-- Whatever is read from a scope is strictly equal to itself. -/
  strict_refl : ∀ (scope : Scope) (name : String) (links : List Expression.Link)
    (value : ScriptValue), ((Expression.identifier name).withLinks links).value scope = .ok value →
      value.strictEquals value = true
  /-- Loose equality always comes to an answer, after two replacements at the latest. -/
  loose_settles : ∀ (left right : ScriptValue) (equal : Bool),
    (∃ count ≤ 2, Settles left right count equal) ↔ left.looseEquals right = equal
  loose_comm : ∀ left right : ScriptValue, left.looseEquals right = right.looseEquals left
  loose_of_strict : ∀ left right : ScriptValue,
    left.strictEquals right = true → left.looseEquals right = true
  /-- Exactly null and undefined values are loosely equal to one of them. -/
  loose_nullish : ∀ left right : ScriptValue, right.isNullish = true →
    (left.looseEquals right = true ↔ left.isNullish = true)

/-- The equality operators obey their laws. -/
theorem lawfulEqualities : LawfulEqualities where
  strict_comm := strictEquals_comm
  strict_trans _ _ _ := strictEquals_trans
  strict_refl _ _ _ _ := Expression.strictEquals_self_of_read
  loose_settles left right equal := by
    constructor
    · rintro ⟨count, -, h⟩
      exact h.eq_looseEquals.symm
    · rintro rfl
      obtain ⟨count, hcount, h⟩ := exists_settles left right
      have hleft := left.pending_le_one
      have hright := right.pending_le_one
      exact ⟨count, by omega, h⟩
  loose_comm := looseEquals_comm
  loose_of_strict _ _ := looseEquals_of_strictEquals
  loose_nullish _ _ h := by rw [looseEquals_of_isNullish h]

end ScriptValue

end FieldTags
