import FieldTags.Proofs.Number.DecimalLiteral
import FieldTags.Proofs.Number.Nearest
import Mathlib.Data.Nat.Digits.Defs

/-!
# The grammar of number literals

The texts that are numbers are, blanks around them aside, the signed decimal literals before the
bound of the finite numbers and the literals behind a base prefix that fit into 63 bits. Either is
read as the number nearest to its value.
-/

namespace FieldTags.Literal

/-! ## Decimal literals -/

namespace Numeral

def toRat (n : Numeral) : ℚ :=
  (Nat.ofDigitChars 10 n.whole 0 +
      Nat.ofDigitChars 10 (n.fraction.getD []) 0 / 10 ^ (n.fraction.getD []).length) *
    10 ^ n.exponent.elim 0 Exponent.value

/-- The digits before and behind the point are read as one whole number. -/
theorem toRat_decimal (n : Numeral) : n.decimal.toRat = n.toRat := by
  have hten : (10 : ℚ) ≠ 0 := by norm_num
  have hdigits : Decimal.digitsValue (n.whole ++ n.fraction.getD []) =
      10 ^ (n.fraction.getD []).length * Nat.ofDigitChars 10 n.whole 0 +
        Nat.ofDigitChars 10 (n.fraction.getD []) 0 := by
    rw [Decimal.digitsValue_eq_ofDigitChars, Nat.ofDigitChars_append,
      Nat.ofDigitChars_eq_ofDigitChars_zero]
  rw [Decimal.toRat, decimal, toRat]
  dsimp only
  rw [hdigits, zpow_sub₀ hten, zpow_natCast]
  push_cast
  field_simp

end Numeral

/-- A decimal literal behind a sign, which may be missing. -/
structure SignedNumeral where
  /-- The sign, if there is one: whether it is a minus sign. -/
  sign : Option Bool
  numeral : Numeral

namespace SignedNumeral

def chars (n : SignedNumeral) : List Char :=
  Exponent.signChars n.sign ++ n.numeral.chars

/-- Whether a minus sign stands in front. -/
def negative (n : SignedNumeral) : Bool :=
  decide (n.sign = some true)

/-- The number that a signed literal stands for, if it is a finite one. -/
theorem readChars_chars (n : SignedNumeral) :
    readChars n.chars =
      if (n.numeral.decimal.toBinary64 n.negative).isFinite = true
      then some (n.numeral.decimal.toBinary64 n.negative) else none := by
  rw [readChars, chars, Exponent.readSign_append n.numeral.readSign_chars]
  dsimp only
  rw [n.numeral.readDecimal_chars]
  rfl

theorem isRounded_toBinary64 (n : SignedNumeral) :
    (n.numeral.decimal.toBinary64 n.negative).IsRounded n.negative n.numeral.toRat := by
  rw [← n.numeral.toRat_decimal]
  exact n.numeral.decimal.isRounded_toBinary64 n.negative

/-- A signed literal is read as the number nearest to it, if this is a finite one. -/
theorem readChars_eq_some_iff (n : SignedNumeral) {x : Binary64} :
    readChars n.chars = some x ↔
      n.numeral.toRat < Binary64.overflowBound ∧ x.IsRounded n.negative n.numeral.toRat := by
  have hrounded := n.isRounded_toBinary64
  rw [readChars_chars, Option.ite_none_right_eq_some, Option.some_inj, hrounded.isFinite_iff,
    hrounded.eq_iff]

end SignedNumeral

/-! ## Literals behind a base prefix -/

/-- A base that has a prefix of its own. -/
inductive Radix where
  | hexadecimal
  | octal
  | binary

namespace Radix

def base : Radix → Nat
  | hexadecimal => 16
  | octal => 8
  | binary => 2

/-- The letter of a prefix, which may be a capital one. -/
def letter : Radix → Bool → Char
  | hexadecimal, capital => if capital then 'X' else 'x'
  | octal, capital => if capital then 'O' else 'o'
  | binary, capital => if capital then 'B' else 'b'

theorem base_le (radix : Radix) : radix.base ≤ 16 := by
  cases radix <;> decide

theorem baseOfLetter?_eq_some_iff {c : Char} {base : Nat} :
    baseOfLetter? c = some base ↔
      ∃ radix : Radix, ∃ capital, c = radix.letter capital ∧ base = radix.base := by
  constructor
  · intro h
    simp only [baseOfLetter?, Bool.or_eq_true, decide_eq_true_eq] at h
    split_ifs at h with hx ho hb <;> cases h
    · rcases hx with rfl | rfl
      · exact ⟨hexadecimal, false, rfl, rfl⟩
      · exact ⟨hexadecimal, true, rfl, rfl⟩
    · rcases ho with rfl | rfl
      · exact ⟨octal, false, rfl, rfl⟩
      · exact ⟨octal, true, rfl, rfl⟩
    · rcases hb with rfl | rfl
      · exact ⟨binary, false, rfl, rfl⟩
      · exact ⟨binary, true, rfl, rfl⟩
  · rintro ⟨radix, capital, rfl, rfl⟩
    cases radix <;> cases capital <;> rfl

end Radix

/-- A digit in a base, which may be a capital letter. -/
structure Digit (base : Nat) where
  /-- What the digit counts. -/
  value : Nat
  value_lt : value < base
  /-- Whether a letter is a capital one. -/
  capital : Bool

def Digit.char {base : Nat} (d : Digit base) : Char :=
  if d.capital then (Nat.digitChar d.value).toUpper else Nat.digitChar d.value

/-- A character with a value is the digit of this value. -/
theorem digitValue?_ofNat : ∀ code : Fin 123, ∀ value ∈ digitValue? (Char.ofNat code),
    ∃ capital : Bool, Char.ofNat code =
      if capital then (Nat.digitChar value).toUpper else Nat.digitChar value := by
  decide

theorem digitValue?_digitChar : ∀ value : Fin 16, ∀ capital : Bool,
    digitValue? (if capital then (Nat.digitChar value).toUpper else Nat.digitChar value) =
      some value.val := by
  decide

section Digits

variable {base : Nat}

theorem digitValue?_char (hbase : base ≤ 16) (d : Digit base) :
    digitValue? d.char = some d.value :=
  digitValue?_digitChar ⟨d.value, Nat.lt_of_lt_of_le d.value_lt hbase⟩ d.capital

theorem exists_digit {c : Char} {value : Nat} (h : digitValue? c = some value)
    (hlt : value < base) : ∃ d : Digit base, c = d.char ∧ value = d.value := by
  have hliteral : isLiteralChar c = true := by
    rw [isLiteralChar, h, Option.isSome_some, Bool.or_true]
  have hcode : c.toNat < 123 := Nat.lt_succ_of_le (toNat_bounds_of_isLiteralChar hliteral).2
  obtain ⟨capital, hchar⟩ :=
    digitValue?_ofNat ⟨c.toNat, hcode⟩ value (by rwa [Char.ofNat_toNat])
  rw [Char.ofNat_toNat] at hchar
  exact ⟨⟨value, hlt, capital⟩, hchar, rfl⟩

/-- The value of digits, the first of which counts most. -/
def digitsTotal (digits : List (Digit base)) : Nat :=
  Nat.ofDigits base (digits.map Digit.value).reverse

theorem digitsTotal_eq_foldl (digits : List (Digit base)) :
    digitsTotal digits = digits.foldl (fun value digit ↦ digit.value + base * value) 0 := by
  rw [digitsTotal, Nat.ofDigits_eq_foldr, List.foldr_reverse, List.foldl_map]
  rfl

/-- The value that one more digit makes of a value. -/
def digitStep (base value : Nat) (c : Char) : Option Nat :=
  match digitValue? c with
  | some digit => if digit < base then some (base * value + digit) else none
  | none => none

theorem readDigits_eq (base : Nat) (cs : List Char) :
    readDigits base cs = cs.foldlM (digitStep base) 0 := rfl

theorem digitStep_eq_some_iff (hbase : base ≤ 16) {value next : Nat} {c : Char} :
    digitStep base value c = some next ↔
      ∃ d : Digit base, c = d.char ∧ next = d.value + base * value := by
  constructor
  · intro h
    unfold digitStep at h
    split at h
    next digit hdigit =>
      split at h
      next hlt =>
        cases h
        obtain ⟨d, hchar, rfl⟩ := exists_digit hdigit hlt
        exact ⟨d, hchar, Nat.add_comm _ _⟩
      · cases h
    · cases h
  · rintro ⟨d, rfl, rfl⟩
    rw [digitStep, digitValue?_char hbase, Nat.add_comm]
    exact if_pos d.value_lt

/-- Exactly the digits of a base are read in it. -/
theorem readDigits_eq_some_iff (hbase : base ≤ 16) {cs : List Char} {n : Nat} :
    readDigits base cs = some n ↔
      ∃ digits : List (Digit base), cs = digits.map Digit.char ∧ n = digitsTotal digits := by
  -- The digits before are kept as a value that the rest of them is added to.
  have hfrom (value : Nat) : cs.foldlM (digitStep base) value = some n ↔
      ∃ digits : List (Digit base), cs = digits.map Digit.char ∧
        n = digits.foldl (fun value digit ↦ digit.value + base * value) value := by
    induction cs generalizing value with
    | nil =>
      constructor
      · intro h
        cases h
        exact ⟨[], rfl, rfl⟩
      · rintro ⟨digits, hnil, rfl⟩
        rw [List.map_eq_nil_iff.mp hnil.symm]
        rfl
    | cons c cs ih =>
      rw [List.foldlM_cons, Option.bind_eq_bind, Option.bind_eq_some_iff]
      constructor
      · rintro ⟨next, hstep, hrest⟩
        obtain ⟨d, rfl, rfl⟩ := (digitStep_eq_some_iff hbase).mp hstep
        obtain ⟨digits, rfl, rfl⟩ := (ih _).mp hrest
        exact ⟨d :: digits, rfl, rfl⟩
      · rintro ⟨digits, hcons, rfl⟩
        obtain ⟨d, digits, rfl, rfl, rfl⟩ := List.map_eq_cons_iff.mp hcons.symm
        exact ⟨_, (digitStep_eq_some_iff hbase).mpr ⟨d, rfl, rfl⟩, (ih _).mpr ⟨digits, rfl, rfl⟩⟩
  rw [readDigits_eq, hfrom]
  simp only [digitsTotal_eq_foldl]

end Digits

/-- A whole number behind a base prefix. -/
structure Prefixed where
  radix : Radix
  /-- Whether the letter of the prefix is a capital one. -/
  capital : Bool
  digits : List (Digit radix.base)
  digits_ne_nil : digits ≠ []

namespace Prefixed

def chars (n : Prefixed) : List Char :=
  '0' :: n.radix.letter n.capital :: n.digits.map Digit.char

def value (n : Prefixed) : Nat :=
  digitsTotal n.digits

/-- Exactly the literals behind a prefix are read as such. -/
theorem readPrefixed_eq_some_iff {cs : List Char} {value : Nat} :
    readPrefixed cs = some value ↔ ∃ n : Prefixed, cs = n.chars ∧ value = n.value := by
  constructor
  · intro h
    unfold readPrefixed at h
    split at h
    next letter digits =>
      split at h
      next base hbase =>
        obtain ⟨radix, capital, rfl, rfl⟩ := Radix.baseOfLetter?_eq_some_iff.mp hbase
        split at h
        · cases h
        next hne =>
          obtain ⟨digits, rfl, rfl⟩ := (readDigits_eq_some_iff radix.base_le).mp h
          exact ⟨⟨radix, capital, digits, fun hnil ↦ hne (by rw [hnil, List.map_nil])⟩, rfl, rfl⟩
      · cases h
    · cases h
  · rintro ⟨n, rfl, rfl⟩
    have hbase : baseOfLetter? (n.radix.letter n.capital) = some n.radix.base :=
      Radix.baseOfLetter?_eq_some_iff.mpr ⟨n.radix, n.capital, rfl, rfl⟩
    have hdigits : readDigits n.radix.base (n.digits.map Digit.char) = some n.value :=
      (readDigits_eq_some_iff n.radix.base_le).mpr ⟨n.digits, rfl, rfl⟩
    rw [chars, readPrefixed, hbase]
    dsimp only
    rw [if_neg (mt List.map_eq_nil_iff.mp n.digits_ne_nil), hdigits]

theorem readSign_chars (n : Prefixed) : readSign n.chars = (false, n.chars) := rfl

/-- The letter of a prefix is neither a point nor that of an exponent. -/
theorem readDecimal_chars (n : Prefixed) : readDecimal n.chars = none := by
  obtain ⟨radix, capital, digits, hne⟩ := n
  cases radix <;> cases capital <;> rfl

/-- The number that a literal behind a prefix stands for, if it fits into 63 bits. -/
theorem readChars_chars (n : Prefixed) :
    readChars n.chars = if n.value < 2 ^ 63 then some (.ofNat n.value) else none := by
  have hvalue : readPrefixed n.chars = some n.value :=
    readPrefixed_eq_some_iff.mpr ⟨n, rfl, rfl⟩
  rw [readChars, readSign_chars]
  dsimp only
  rw [readDecimal_chars, hvalue]
  rfl

/-- A literal behind a prefix is read as the number nearest to it, if it fits into 63 bits. -/
theorem readChars_eq_some_iff (n : Prefixed) {x : Binary64} :
    readChars n.chars = some x ↔ n.value ≤ 2 ^ 63 - 1 ∧ x.IsRounded false n.value := by
  rw [readChars_chars, Option.ite_none_right_eq_some, Option.some_inj,
    (Binary64.isRounded_ofNat n.value).eq_iff]
  exact and_congr_left' (Nat.lt_iff_le_pred (Nat.two_pow_pos 63))

end Prefixed

/-! ## Both kinds -/

variable {cs : List Char} {x : Binary64}

/-- What is read as a number is a literal of one of the two kinds. -/
theorem exists_of_readChars (h : readChars cs = some x) :
    (∃ n : SignedNumeral, cs = n.chars) ∨ ∃ n : Prefixed, cs = n.chars := by
  rw [readChars] at h
  dsimp only at h
  split at h
  next d hdecimal =>
    left
    obtain ⟨sign, hsign, -⟩ := Exponent.exists_signChars cs
    obtain ⟨numeral, hnumeral, -⟩ := Numeral.readDecimal_eq_some_iff.mp hdecimal
    exact ⟨⟨sign, numeral⟩, by rw [SignedNumeral.chars, ← hnumeral, ← hsign]⟩
  next =>
    right
    split at h
    next value hvalue =>
      obtain ⟨n, hchars, -⟩ := Prefixed.readPrefixed_eq_some_iff.mp hvalue
      exact ⟨n, hchars⟩
    · cases h

/-- A text is a number exactly if it is a literal whose value is within bounds. -/
theorem isSome_readChars_iff : (readChars cs).isSome = true ↔
    (∃ n : SignedNumeral, cs = n.chars ∧ n.numeral.toRat < Binary64.overflowBound) ∨
      ∃ n : Prefixed, cs = n.chars ∧ n.value ≤ 2 ^ 63 - 1 := by
  rw [Option.isSome_iff_exists]
  constructor
  · rintro ⟨x, hx⟩
    rcases exists_of_readChars hx with ⟨n, rfl⟩ | ⟨n, rfl⟩
    · exact .inl ⟨n, rfl, (n.readChars_eq_some_iff.mp hx).1⟩
    · exact .inr ⟨n, rfl, (n.readChars_eq_some_iff.mp hx).1⟩
  · rintro (⟨n, rfl, hbound⟩ | ⟨n, rfl, hbound⟩)
    · exact ⟨_, n.readChars_eq_some_iff.mpr ⟨hbound, n.isRounded_toBinary64⟩⟩
    · exact ⟨_, n.readChars_eq_some_iff.mpr ⟨hbound, Binary64.isRounded_ofNat n.value⟩⟩

theorem isFinite_of_readChars (h : readChars cs = some x) : x.isFinite = true := by
  rcases exists_of_readChars h with ⟨n, rfl⟩ | ⟨n, rfl⟩
  · obtain ⟨hbound, hrounded⟩ := n.readChars_eq_some_iff.mp h
    exact hrounded.isFinite_iff.mpr hbound
  · obtain ⟨hbound, hrounded⟩ := n.readChars_eq_some_iff.mp h
    rw [← (Binary64.isRounded_ofNat n.value).eq_iff.mpr hrounded]
    exact Binary64.isFinite_ofNat (by decide) (Nat.lt_of_le_pred (Nat.two_pow_pos 63) hbound)

end FieldTags.Literal

namespace FieldTags.Binary64

open Literal (SignedNumeral Prefixed)

/-- A number literal stands for a finite number. -/
theorem isFinite_of_ofText? {s : String} {x : Binary64} (h : ofText? s = some x) :
    x.isFinite = true :=
  Literal.isFinite_of_readChars h

/--
The texts that are numbers are, blanks around them aside, the signed decimal literals before the
bound of the finite numbers and the prefixed ones of 63 bits; they are read as finite numbers, each
as the number nearest to its value.
-/
theorem ofText?_reads_literals (s : String) :
    ((ofText? s).isSome = true ↔
      (∃ n : SignedNumeral, Text.trimChars s.toList = n.chars ∧ n.numeral.toRat < overflowBound) ∨
        ∃ n : Prefixed, Text.trimChars s.toList = n.chars ∧ n.value ≤ 2 ^ 63 - 1) ∧
      ∀ x, ofText? s = some x → x.isFinite = true ∧
        (∀ n : SignedNumeral, Text.trimChars s.toList = n.chars →
          x.IsRounded n.negative n.numeral.toRat) ∧
        ∀ n : Prefixed, Text.trimChars s.toList = n.chars → x.IsRounded false n.value := by
  refine ⟨Literal.isSome_readChars_iff, fun x hx ↦
    ⟨isFinite_of_ofText? hx, fun n hn ↦ ?_, fun n hn ↦ ?_⟩⟩
  · rw [ofText?, hn] at hx
    exact (n.readChars_eq_some_iff.mp hx).2
  · rw [ofText?, hn] at hx
    exact (n.readChars_eq_some_iff.mp hx).2

end FieldTags.Binary64
