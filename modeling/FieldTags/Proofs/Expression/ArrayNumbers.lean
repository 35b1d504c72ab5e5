import FieldTags.Proofs.Expression.Equality
import FieldTags.Proofs.Expression.Operands
import FieldTags.Proofs.Json.Lexing
import FieldTags.Proofs.Number.LiteralCharacters
import FieldTags.Proofs.Number.WholeNumberText

/-!
# Arrays as numbers

An array is made a number by looking into it: no items count as zero, and a single item counts as
itself. Where an array is compared with a number, its text is read as one. Both ways lead to the same
number for every kind of item but one. A truth value counts as zero or one, and its text is a word
and no number; so they differ for the arrays that wrap a truth value, however deep.
-/

namespace FieldTags

namespace Binary64

variable {s : String} {x : Binary64} {n : Int}

/-- A text that is a number is not blank. -/
theorem allBlank_of_ofText? (h : ofText? s = some x) : Text.allBlank s = false := by
  apply Bool.eq_false_iff.mpr
  intro hblank
  rw [ofText?, Text.trimChars_of_all hblank] at h
  cases h

/-- The sign and the digits of an integer are read as the number nearest to it. -/
theorem readChars_integerChars (h : (ofInt n).isFinite = true) :
    Literal.readChars (integerChars n) = some (ofInt n) := by
  have hdigit (c : Char) (hc : c ∈ Nat.toDigits 10 n.natAbs) : c.isDigit = true :=
    Nat.isDigit_of_mem_toDigits (by decide) (by decide) hc
  have hplain (c : Char) (hc : c ∈ Nat.toDigits 10 n.natAbs) : Literal.isPlain c = true := by
    rw [Literal.isPlain, hdigit c hc, Bool.true_or]
  have hread := Literal.readDecimal_digits Nat.toDigits_ne_nil hdigit
  rw [Decimal.digitsValue_toDigits] at hread
  have hrank : Decimal.nearestRank ⟨n.natAbs, 0⟩ = nearestRank (n.natAbs * grainsInOne) 1 := by
    rw [Decimal.nearestRank, if_pos (Int.le_refl 0), Int.toNat_zero, tenPow_eq_pow, Nat.pow_zero,
      Nat.mul_one]
  have hsign : integerChars n = if decide (n < 0) then '-' :: Nat.toDigits 10 n.natAbs
      else Nat.toDigits 10 n.natAbs := by
    by_cases hn : n < 0 <;> simp [integerChars, hn]
  rw [ofInt, ofGrains, isFinite, decide_eq_true_eq, ← hrank] at h
  rw [hsign, Literal.readChars_of_readDecimal _ hplain hread h, ofInt, ofGrains]
  simp only [hrank]

theorem toList_toString (n : Int) : (toString n).toList = integerChars n := by
  cases n with
  | ofNat m => exact Nat.toList_repr
  | negSucc m =>
    have hrepr : (toString (Int.negSucc m)).toList = '-' :: (Nat.repr (m + 1)).toList :=
      String.toList_append
    rw [hrepr, Nat.toList_repr, integerChars, if_pos (Int.negSucc_lt_zero m), Int.natAbs_negSucc,
      List.singleton_append]

/-- The text of an integer is the number nearest to it. -/
theorem ofText?_toString (h : (ofInt n).isFinite = true) : ofText? (toString n) = some (ofInt n) := by
  have hliteral (c : Char) (hc : c ∈ (toString n).toList) : Literal.isLiteralChar c = true := by
    rw [toList_toString, integerChars, List.mem_append] at hc
    rcases hc with hc | hc
    · split at hc
      · rw [List.mem_singleton.mp hc]
        rfl
      · exact absurd hc List.not_mem_nil
    · exact Literal.isLiteralChar_of_isDigit
        (Nat.isDigit_of_mem_toDigits (by decide) (by decide) hc)
  rw [ofText?_of_forall hliteral, toList_toString, readChars_integerChars h]

end Binary64

/-! ## Numbers of texts -/

namespace ScriptValue

theorem toNumber_text_of_ofText? {s : String} {x : Binary64} (h : Binary64.ofText? s = some x) :
    (text s).toNumber = x := by
  rw [toNumber, Binary64.allBlank_of_ofText? h, if_neg Bool.false_ne_true, h, Option.getD_some]

/-- A text with a character that is neither blank nor part of a literal counts as no number. -/
theorem toNumber_text_of_mem {s : String} {c : Char} (h : c ∈ s.toList)
    (hblank : Text.isBlank c = false) (hc : Literal.isLiteralChar c = false) :
    (text s).toNumber = .nan := by
  have hall : Text.allBlank s = false :=
    List.all_eq_false.mpr ⟨c, h, Bool.eq_false_iff.mp hblank⟩
  rw [toNumber, hall, if_neg Bool.false_ne_true, Binary64.ofText?_of_mem h hblank hc,
    Option.getD_none]

end ScriptValue

namespace Json

/-- The text of a number is read as this number, except that negative zero loses its sign. -/
theorem position?_toNumber_numberText (n : JsonNumber) :
    (ScriptValue.text (numberText n)).toNumber.position? = n.toBinary64.position? := by
  cases n with
  | integer n inRange =>
    have hfinite : (Binary64.ofInt n).isFinite = true :=
      (JsonNumber.integer n inRange).isFinite_toBinary64
    rw [numberText, ScriptValue.toNumber_text_of_ofText? (Binary64.ofText?_toString hfinite)]
    rfl
  | float x finite =>
    cases x with
    | nan => cases finite
    | signed negative rank hrank =>
      by_cases hzero : rank = 0
      · subst hzero
        have hread : Binary64.ofText? "0" = some (.zeroOfSign false) := by decide +kernel
        have htext : numberText (.float (.signed negative 0 hrank) finite) = "0" := rfl
        rw [htext, ScriptValue.toNumber_text_of_ofText? hread]
        cases negative <;> rfl
      · have hnot : (Binary64.signed negative rank hrank).isZero = false := beq_false_of_ne hzero
        rw [numberText, Binary64.scriptText_of_not_isZero finite hnot,
          ScriptValue.toNumber_text_of_ofText? (Binary64.ofText?_plain_text finite)]
        rfl

/-- The truth value that arrays of a single item lead to, if they do. -/
def wrappedBool? : Json → Option Bool
  | .bool b => some b
  | .array [item] => item.wrappedBool?
  | _ => none

/-- The text of a value is read as the number that the value counts as, if there is no truth value to
be found in it, and otherwise both are no number. -/
theorem position?_toNumber_displayText (value : Json) (h : value.wrappedBool? = none) :
    (ScriptValue.text value.displayText).toNumber.position? =
      (value.toNumber?.getD .nan).position? := by
  match value with
  | .null => rfl
  | .bool b => cases h
  | .number n => exact position?_toNumber_numberText n
  | .string s =>
    rw [displayText, ScriptValue.toNumber, toNumber?]
    split <;> rfl
  | .array [] => rfl
  | .array [item] => exact position?_toNumber_displayText item h
  | .array (item :: next :: rest) =>
    have htext : (Json.array (item :: next :: rest)).displayText =
        item.displayText ++ "," ++ displayTexts (next :: rest) := rfl
    have hcomma : ',' ∈ (Json.array (item :: next :: rest)).displayText.toList := by
      rw [htext, String.toList_append, String.toList_append]
      exact List.mem_append_left _ (List.mem_append_right _ List.mem_cons_self)
    rw [ScriptValue.toNumber_text_of_mem hcomma (by decide) (by decide)]
    rfl
  | .object members =>
    have hbrace : '{' ∈ (Json.object members).displayText.toList := by
      rw [displayText, toList_compact, tokens]
      exact List.mem_cons_self
    rw [ScriptValue.toNumber_text_of_mem hbrace (by decide) (by decide)]
    rfl

/-- An array around a truth value counts as zero or one. -/
theorem toNumber?_of_wrappedBool? {b : Bool} {value : Json} (h : value.wrappedBool? = some b) :
    value.toNumber? = some (.ofNat (if b then 1 else 0)) := by
  fun_induction wrappedBool? value with
  | case1 => cases h; rfl
  | case2 item ih => exact ih h
  | case3 => cases h

/-- The text of an array around a truth value is the word for it. -/
theorem displayText_of_wrappedBool? {b : Bool} {value : Json} (h : value.wrappedBool? = some b) :
    value.displayText = if b then "true" else "false" := by
  fun_induction wrappedBool? value with
  | case1 => cases h; rfl
  | case2 item ih => exact ih h
  | case3 => cases h

theorem toNumber_displayText_of_wrappedBool? {b : Bool} {value : Json}
    (h : value.wrappedBool? = some b) : (ScriptValue.text value.displayText).toNumber = .nan := by
  rw [displayText_of_wrappedBool? h]
  cases b with
  | false =>
    have hword : 's' ∈ "false".toList := by decide
    exact ScriptValue.toNumber_text_of_mem hword (by decide) (by decide)
  | true =>
    have hword : 't' ∈ "true".toList := by decide
    exact ScriptValue.toNumber_text_of_mem hword (by decide) (by decide)

end Json

/-! ## Comparisons with numbers -/

namespace ScriptValue

variable (place : Place) (items : List Json) (n : Binary64)

theorem looseEquals_array : looseEquals (.reference place (.array items)) (.number n) =
    (text (Json.array items).displayText).toNumber.equals n := rfl

theorem order?_array : order? (.reference place (.array items)) (.number n) =
    (text (Json.array items).displayText).toNumber.compare? n := rfl

theorem order?_array_right : order? (.number n) (.reference place (.array items)) =
    n.compare? (text (Json.array items).displayText).toNumber := rfl

end ScriptValue

namespace Expression

def orderOperators : List BinaryOperator :=
  [.less, .lessOrEqual, .greater, .greaterOrEqual]

theorem exists_apply_order {operator : BinaryOperator} (h : operator ∈ orderOperators) :
    ∃ test : Ordering → Bool, ∀ left right : ScriptValue,
      operator.apply left right = .bool ((left.order? right).any test) := by
  simp only [orderOperators, List.mem_cons, List.not_mem_nil, or_false] at h
  rcases h with rfl | rfl | rfl | rfl
  · exact ⟨Ordering.isLT, fun _ _ ↦ rfl⟩
  · exact ⟨Ordering.isLE, fun _ _ ↦ rfl⟩
  · exact ⟨Ordering.isGT, fun _ _ ↦ rfl⟩
  · exact ⟨Ordering.isGE, fun _ _ ↦ rfl⟩

/-- An expression counts as the same number where it is made a number and where its text is read as
one; or it counts as none in both cases. -/
structure CountsAlike (scope : Scope) (e : Expression) : Prop where
  /-- The numbers that it is loosely equal to are those that it is strictly equal to once it has been
  made a number. -/
  equal : ∀ other n, other.value scope = .ok (.number n) → ∃ result,
    (binary .equal e other).value scope = .ok (.bool result) ∧
      (binary .strictEqual (unary .plus e) other).value scope = .ok (.bool result)
  /-- It stands in the order of the numbers where it stands once it has been made a number. -/
  order : ∀ operator ∈ orderOperators, ∀ other n, other.value scope = .ok (.number n) → ∃ result,
    (binary operator e other).value scope = .ok (.bool result) ∧
      (binary operator (unary .plus e) other).value scope = .ok (.bool result)
  /-- So it does on the right of an operator. -/
  order_right : ∀ operator ∈ orderOperators, ∀ other n, other.value scope = .ok (.number n) →
    ∃ result, (binary operator other e).value scope = .ok (.bool result) ∧
      (binary operator other (unary .plus e)).value scope = .ok (.bool result)
  /-- Its text is made the number that it is made itself, both zeros being one number. -/
  text : ∃ x y, (unary .plus e).value scope = .ok (.number x) ∧
    (unary .plus (binary .add e (literal (.text "")))).value scope = .ok (.number y) ∧
      x.position? = y.position?

variable {scope : Scope} {e other : Expression} {place : Place} {items : List Json} {b : Bool}
  {n : Binary64}

theorem value_plus_array (h : e.value scope = .ok (.reference place (.array items))) :
    (unary .plus e).value scope = .ok (.number ((Json.array items).toNumber?.getD .nan)) :=
  value_unary .plus h

theorem value_plus_text_array (h : e.value scope = .ok (.reference place (.array items))) :
    (unary .plus (binary .add e (literal (.text "")))).value scope =
      .ok (.number (ScriptValue.text (Json.array items).displayText).toNumber) := by
  have hempty : (literal (.text "")).value scope = .ok (.text "") := rfl
  have hadd : BinaryOperator.add.apply (.reference place (.array items)) (.text "") =
      .text ((Json.array items).displayText ++ "") := rfl
  rw [value_unary .plus (value_binary .add h hempty), hadd, String.append_empty]
  rfl

/-- An array without a truth value in it counts alike in all ways. -/
theorem countsAlike_of_wrappedBool? (h : e.value scope = .ok (.reference place (.array items)))
    (hbool : (Json.array items).wrappedBool? = none) : CountsAlike scope e := by
  have hplus := value_plus_array h
  have hposition := Json.position?_toNumber_displayText _ hbool
  constructor
  · intro other n hother
    refine ⟨_, value_binary .equal h hother, ?_⟩
    rw [value_binary .strictEqual hplus hother, BinaryOperator.apply, ScriptValue.looseEquals_array,
      Binary64.equals, Binary64.compare?, hposition]
    rfl
  · intro operator hoperator other n hother
    obtain ⟨test, htest⟩ := exists_apply_order hoperator
    refine ⟨_, (value_binary operator h hother).trans (congrArg Except.ok (htest _ _)), ?_⟩
    rw [value_binary operator hplus hother, htest, ScriptValue.order?_array, Binary64.compare?,
      hposition]
    rfl
  · intro operator hoperator other n hother
    obtain ⟨test, htest⟩ := exists_apply_order hoperator
    refine ⟨_, (value_binary operator hother h).trans (congrArg Except.ok (htest _ _)), ?_⟩
    rw [value_binary operator hother hplus, htest, ScriptValue.order?_array_right,
      Binary64.compare?, hposition]
    rfl
  · exact ⟨_, _, hplus, value_plus_text_array h, hposition.symm⟩

/-- An array around a truth value is loosely equal to no number. -/
theorem value_equal_of_wrappedBool? (h : e.value scope = .ok (.reference place (.array items)))
    (hbool : (Json.array items).wrappedBool? = some b) (hother : other.value scope = .ok (.number n)) :
    (binary .equal e other).value scope = .ok (.bool false) := by
  rw [value_binary .equal h hother, BinaryOperator.apply, ScriptValue.looseEquals_array,
    Json.toNumber_displayText_of_wrappedBool? hbool]
  rfl

/-- Made a number, an array around a truth value is zero or one. -/
theorem value_plus_of_wrappedBool? (h : e.value scope = .ok (.reference place (.array items)))
    (hbool : (Json.array items).wrappedBool? = some b) :
    (unary .plus e).value scope = .ok (.number (.ofNat (if b then 1 else 0))) := by
  rw [value_plus_array h, Json.toNumber?_of_wrappedBool? hbool, Option.getD_some]

theorem not_countsAlike_of_wrappedBool? (h : e.value scope = .ok (.reference place (.array items)))
    (hbool : (Json.array items).wrappedBool? = some b) : ¬ CountsAlike scope e := by
  intro halike
  have hother : (literal (.number (.ofNat (if b then 1 else 0)))).value scope =
      .ok (.number (.ofNat (if b then 1 else 0))) := rfl
  have hself : (Binary64.ofNat (if b then 1 else 0)).equals (.ofNat (if b then 1 else 0)) = true :=
    Binary64.equals_self_iff.mpr rfl
  obtain ⟨result, hloose, hstrict⟩ := halike.equal _ _ hother
  rw [value_equal_of_wrappedBool? h hbool hother] at hloose
  rw [value_binary .strictEqual (value_plus_of_wrappedBool? h hbool) hother, BinaryOperator.apply,
    ScriptValue.strictEquals, hself] at hstrict
  cases hloose
  cases hstrict

/-- An array counts alike in all ways unless it leads to a truth value by way of single items. In this
case it is made zero or one, and no number is loosely equal to it. -/
theorem counts_alike_unless_wraps_bool
    (h : e.value scope = .ok (.reference place (.array items))) :
    (CountsAlike scope e ↔ (Json.array items).wrappedBool? = none) ∧
      ∀ b, (Json.array items).wrappedBool? = some b →
        (unary .plus e).value scope = .ok (.number (.ofNat (if b then 1 else 0))) ∧
          ∀ other n, other.value scope = .ok (.number n) →
            (binary .equal e other).value scope = .ok (.bool false) := by
  refine ⟨⟨fun halike ↦ ?_, countsAlike_of_wrappedBool? h⟩, fun b hbool ↦ ?_⟩
  · cases hbool : (Json.array items).wrappedBool? with
    | none => rfl
    | some b => exact absurd halike (not_countsAlike_of_wrappedBool? h hbool)
  · exact ⟨value_plus_of_wrappedBool? h hbool,
      fun other n hother ↦ value_equal_of_wrappedBool? h hbool hother⟩

/-- A row with a switch and a code in arrays. -/
def listedRow : Scope :=
  .ofList [("row", .object [("code", .array [.array [.string " 0x10 "]]),
    ("switch", .array [.bool true])])]

/-- The code counts alike in all ways. -/
theorem counts_alike_code : CountsAlike listedRow (.member (.identifier "row") "code" false) := by
  have hvalue : (member (.identifier "row") "code" false).value listedRow =
      .ok (.reference ⟨"row", [.key "code"]⟩ (.array [.array [.string " 0x10 "]])) := rfl
  exact (counts_alike_unless_wraps_bool hvalue).1.mpr rfl

/-- The switch does not. -/
theorem not_forall_counts_alike :
    ¬ ∀ (scope : Scope) (e : Expression) (place : Place) (items : List Json),
      e.value scope = .ok (.reference place (.array items)) → CountsAlike scope e := by
  intro h
  have hvalue : (member (.identifier "row") "switch" false).value listedRow =
      .ok (.reference ⟨"row", [.key "switch"]⟩ (.array [.bool true])) := rfl
  exact not_countsAlike_of_wrappedBool? hvalue rfl (h _ _ _ _ hvalue)

end Expression

end FieldTags
