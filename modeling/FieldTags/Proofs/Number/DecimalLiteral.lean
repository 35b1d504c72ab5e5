import FieldTags.Proofs.Number.LiteralCharacters
import FieldTags.Proofs.Number.PlainText

/-!
# Decimal literals

An unsigned decimal literal is a whole part, a point with a fraction and an exponent, of which all
may be missing as long as there is a digit before the exponent. It is read as the decimal fraction
that its digits and its exponent make up.
-/

namespace FieldTags.Literal

/-- No digit stands at the start of a text. -/
def NoDigit (cs : List Char) : Prop :=
  ∀ c ∈ cs.head?, c.isDigit = false

theorem noDigit_nil : NoDigit [] :=
  fun _ hc ↦ nomatch hc

theorem noDigit_cons {c : Char} (h : c.isDigit = false) (rest : List Char) : NoDigit (c :: rest) := by
  intro d hd
  cases hd
  exact h

/-! ## Exponents -/

/-- The exponent of a decimal literal. -/
structure Exponent where
  /-- Whether a capital letter stands in front. -/
  capital : Bool
  /-- The sign, if there is one: whether it is a minus sign. -/
  sign : Option Bool
  digits : List Char
  digits_ne_nil : digits ≠ []
  all_digits : digits.all Char.isDigit = true

namespace Exponent

theorem isDigit (e : Exponent) : ∀ c ∈ e.digits, c.isDigit = true :=
  List.all_eq_true.mp e.all_digits

def letter (e : Exponent) : Char :=
  if e.capital then 'E' else 'e'

def signChars : Option Bool → List Char
  | none => []
  | some true => ['-']
  | some false => ['+']

def chars (e : Exponent) : List Char :=
  e.letter :: (signChars e.sign ++ e.digits)

def value (e : Exponent) : Int :=
  if e.sign = some true then -Decimal.digitsValue e.digits else Decimal.digitsValue e.digits

/-- What is read as a sign is one, or is missing. -/
theorem exists_signChars (cs : List Char) : ∃ sign,
    cs = signChars sign ++ (readSign cs).2 ∧ (readSign cs).1 = decide (sign = some true) := by
  unfold readSign
  split
  · exact ⟨some true, rfl, rfl⟩
  · exact ⟨some false, rfl, rfl⟩
  · exact ⟨none, rfl, rfl⟩

/-- A sign, or none, is read up to a character that is no sign. -/
theorem readSign_append {rest : List Char} (h : readSign rest = (false, rest))
    (sign : Option Bool) : readSign (signChars sign ++ rest) = (decide (sign = some true), rest) := by
  cases sign with
  | none => exact h
  | some negative => cases negative <;> rfl

theorem letter_cases (e : Exponent) : e.letter = 'e' ∨ e.letter = 'E' := by
  rw [letter]
  cases e.capital with
  | false => exact .inl rfl
  | true => exact .inr rfl

theorem isDigit_letter (e : Exponent) : e.letter.isDigit = false := by
  rcases e.letter_cases with h | h <;> rw [h] <;> rfl

theorem isMark_letter (e : Exponent) : (e.letter = 'e' || e.letter = 'E') = true := by
  rcases e.letter_cases with h | h <;> rw [h] <;> rfl

theorem readSign_signChars (e : Exponent) :
    readSign (signChars e.sign ++ e.digits) = (decide (e.sign = some true), e.digits) :=
  readSign_append (readSign_of_isPlain fun c hc ↦ by rw [isPlain, e.isDigit c hc, Bool.true_or]) _

theorem readExponent_chars (e : Exponent) : readExponent e.chars = some e.value := by
  have hdigits : (e.digits ≠ [] && e.digits.all Char.isDigit) = true := by
    rw [decide_eq_true e.digits_ne_nil, Bool.true_and, e.all_digits]
  rw [chars, readExponent, if_pos e.isMark_letter, readSign_signChars]
  dsimp only
  rw [if_pos hdigits, value]
  simp only [decide_eq_true_eq]

theorem isLiteralChar_of_mem {e : Exponent} {c : Char} (h : c ∈ e.chars) :
    isLiteralChar c = true := by
  rw [chars, List.mem_cons, List.mem_append] at h
  rcases h with rfl | h | h
  · rcases e.letter_cases with h | h <;> rw [h] <;> decide
  · cases hsign : e.sign with
    | none =>
      rw [hsign] at h
      exact absurd h List.not_mem_nil
    | some negative =>
      rw [hsign] at h
      cases negative <;> rw [List.mem_singleton.mp h] <;> decide
  · exact isLiteralChar_of_isDigit (e.isDigit c h)

end Exponent

/-! ## Literals -/

/-- An unsigned decimal literal. -/
structure Numeral where
  whole : List Char
  fraction : Option (List Char)
  exponent : Option Exponent
  all_whole : whole.all Char.isDigit = true
  all_fraction : (fraction.getD []).all Char.isDigit = true
  digits_ne_nil : whole ++ fraction.getD [] ≠ []

namespace Numeral

def fractionChars : Option (List Char) → List Char
  | none => []
  | some digits => '.' :: digits

def exponentChars (exponent : Option Exponent) : List Char :=
  exponent.elim [] Exponent.chars

def chars (n : Numeral) : List Char :=
  n.whole ++ (fractionChars n.fraction ++ exponentChars n.exponent)

/-- The decimal fraction that a literal stands for. -/
def decimal (n : Numeral) : Decimal :=
  ⟨Decimal.digitsValue (n.whole ++ n.fraction.getD []),
    n.exponent.elim 0 Exponent.value - (n.fraction.getD []).length⟩

/-- The number that a literal stands for. -/
def value (n : Numeral) : Binary64 :=
  n.decimal.toBinary64 false

variable (n : Numeral)

theorem isDigit_whole : ∀ c ∈ n.whole, c.isDigit = true :=
  List.all_eq_true.mp n.all_whole

theorem isDigit_fraction : ∀ c ∈ n.fraction.getD [], c.isDigit = true :=
  List.all_eq_true.mp n.all_fraction

/-- A literal starts with a digit, or with a point and a digit. -/
theorem exists_chars_eq_cons : ∃ c more, n.chars = c :: more ∧
    (c.isDigit = true ∨ c = '.' ∧ ∃ d rest, more = d :: rest ∧ d.isDigit = true) := by
  have hwhole := n.isDigit_whole
  have hfraction := n.isDigit_fraction
  have hne := n.digits_ne_nil
  rw [chars]
  cases hw : n.whole with
  | cons c more =>
    rw [hw] at hwhole
    exact ⟨c, _, rfl, .inl (hwhole c List.mem_cons_self)⟩
  | nil =>
    rw [hw, List.nil_append] at hne
    cases hf : n.fraction with
    | none =>
      rw [hf] at hne
      exact absurd rfl hne
    | some digits =>
      rw [hf, Option.getD_some] at hne hfraction
      obtain ⟨d, rest, rfl⟩ := List.exists_cons_of_ne_nil hne
      exact ⟨'.', _, rfl, .inr ⟨rfl, d, _, rfl, hfraction d List.mem_cons_self⟩⟩

variable {n} {rest : List Char}

theorem noDigit_exponentChars (exponent : Option Exponent) (hrest : NoDigit rest) :
    NoDigit (exponentChars exponent ++ rest) := by
  cases exponent with
  | none => exact hrest
  | some e => exact noDigit_cons e.isDigit_letter _

theorem noDigit_fractionChars (fraction : Option (List Char)) (hrest : NoDigit rest) :
    NoDigit (fractionChars fraction ++ rest) := by
  cases fraction with
  | none => exact hrest
  | some digits => exact noDigit_cons rfl _

/-- No point stands where an exponent does, or where nothing stands. -/
theorem readFraction_exponentChars (exponent : Option Exponent) :
    readFraction (exponentChars exponent) = ([], exponentChars exponent) := by
  cases exponent with
  | none => rfl
  | some e =>
    rw [exponentChars, Option.elim_some, Exponent.chars]
    rcases e.letter_cases with h | h <;> rw [h] <;> rfl

theorem readFraction_chars (n : Numeral) :
    readFraction (fractionChars n.fraction ++ exponentChars n.exponent) =
      (n.fraction.getD [], exponentChars n.exponent) := by
  have hdigits := n.isDigit_fraction
  have hrest : NoDigit (exponentChars n.exponent) := by
    have h := noDigit_exponentChars n.exponent noDigit_nil
    rwa [List.append_nil] at h
  cases hfraction : n.fraction with
  | none => exact readFraction_exponentChars n.exponent
  | some digits =>
    rw [hfraction, Option.getD_some] at hdigits
    rw [fractionChars, List.cons_append, readFraction,
      Text.takeWhile_append_of_head? hdigits hrest, Text.dropWhile_append_of_head? hdigits hrest,
      Option.getD_some]

/-- What is read as a fraction is one, or is missing. -/
theorem exists_fractionChars (cs : List Char) : ∃ fraction : Option (List Char),
    cs = fractionChars fraction ++ (readFraction cs).2 ∧
      (readFraction cs).1 = fraction.getD [] ∧
      (fraction.getD []).all Char.isDigit = true := by
  unfold readFraction
  split
  next rest =>
    refine ⟨some (rest.takeWhile Char.isDigit), ?_, rfl, List.all_takeWhile⟩
    rw [fractionChars, List.cons_append, List.takeWhile_append_dropWhile]
  · exact ⟨none, rfl, rfl, rfl⟩

/-- What is read as an exponent is one, or is missing. -/
theorem exists_exponentChars {cs : List Char} {power : Int} (h : readExponent cs = some power) :
    ∃ exponent, cs = exponentChars exponent ∧ power = exponent.elim 0 Exponent.value := by
  cases cs with
  | nil =>
    cases h
    exact ⟨none, rfl, rfl⟩
  | cons letter rest =>
    rw [readExponent] at h
    split at h
    next hletter =>
      dsimp only at h
      split at h
      next hdigits =>
        cases h
        obtain ⟨sign, hrest, hnegative⟩ := Exponent.exists_signChars rest
        obtain ⟨hne, hall⟩ := (Bool.and_eq_true _ _).mp hdigits
        refine ⟨some ⟨letter == 'E', sign, (readSign rest).2, of_decide_eq_true hne, hall⟩, ?_, ?_⟩
        · have hcase : (if (letter == 'E') = true then 'E' else 'e') = letter := by
            rcases (Bool.or_eq_true _ _).mp hletter with h | h <;>
              rw [of_decide_eq_true h] <;> rfl
          rw [exponentChars, Option.elim_some, Exponent.chars, Exponent.letter, ← hrest, hcase]
        · simp only [Option.elim_some, Exponent.value, hnegative, decide_eq_true_eq]
      · cases h
    · cases h

/-- A literal is read as its decimal fraction. -/
theorem readDecimal_chars (n : Numeral) : readDecimal n.chars = some n.decimal := by
  have hrest : NoDigit (fractionChars n.fraction ++ exponentChars n.exponent) := by
    have h := noDigit_fractionChars n.fraction (noDigit_exponentChars n.exponent noDigit_nil)
    rwa [List.append_nil] at h
  have hexponent : readExponent (exponentChars n.exponent) =
      some (n.exponent.elim 0 Exponent.value) := by
    cases n.exponent with
    | none => rfl
    | some e => exact e.readExponent_chars
  have hne : (n.whole = [] && n.fraction.getD [] = []) = false := by
    rw [Bool.and_eq_false_iff, decide_eq_false_iff_not, decide_eq_false_iff_not, ← not_and_or,
      ← List.append_eq_nil_iff]
    exact n.digits_ne_nil
  rw [readDecimal, chars, Text.takeWhile_append_of_head? n.isDigit_whole hrest,
    Text.dropWhile_append_of_head? n.isDigit_whole hrest, readFraction_chars]
  dsimp only
  rw [hne, if_neg Bool.false_ne_true, hexponent, Option.map_some, decimal]

/-- Exactly the literals are read as decimal fractions. -/
theorem readDecimal_eq_some_iff {cs : List Char} {d : Decimal} :
    readDecimal cs = some d ↔ ∃ n : Numeral, cs = n.chars ∧ d = n.decimal := by
  constructor
  · intro h
    rw [readDecimal] at h
    dsimp only at h
    split at h
    · cases h
    next hne =>
      obtain ⟨power, hpower, rfl⟩ := Option.map_eq_some_iff.mp h
      obtain ⟨fraction, hfraction, hdigits, hall⟩ :=
        exists_fractionChars (cs.dropWhile Char.isDigit)
      obtain ⟨exponent, hexponent, rfl⟩ := exists_exponentChars hpower
      rw [hdigits, Bool.and_eq_true, decide_eq_true_eq, decide_eq_true_eq,
        ← List.append_eq_nil_iff] at hne
      refine ⟨⟨cs.takeWhile Char.isDigit, fraction, exponent, List.all_takeWhile, hall, hne⟩,
        ?_, ?_⟩
      · rw [chars, ← hexponent, ← hfraction, List.takeWhile_append_dropWhile]
      · rw [decimal, hdigits]
  · rintro ⟨n, rfl, rfl⟩
    exact n.readDecimal_chars

theorem isLiteralChar_of_mem {c : Char} (h : c ∈ n.chars) : isLiteralChar c = true := by
  rw [chars, List.mem_append, List.mem_append] at h
  rcases h with h | h | h
  · exact isLiteralChar_of_isDigit (n.isDigit_whole c h)
  · have hdigits := n.isDigit_fraction
    cases hfraction : n.fraction with
    | none =>
      rw [hfraction] at h
      exact absurd h List.not_mem_nil
    | some digits =>
      rw [hfraction, Option.getD_some] at hdigits
      rw [hfraction, fractionChars, List.mem_cons] at h
      rcases h with rfl | h
      · rfl
      · exact isLiteralChar_of_isDigit (hdigits c h)
  · cases hexponent : n.exponent with
    | none =>
      rw [hexponent] at h
      exact absurd h List.not_mem_nil
    | some e =>
      rw [hexponent] at h
      exact Exponent.isLiteralChar_of_mem h

theorem readSign_chars (n : Numeral) : readSign n.chars = (false, n.chars) := by
  obtain ⟨c, more, hchars, hc⟩ := n.exists_chars_eq_cons
  have hne {sign : Char} (hdigit : sign.isDigit = false) (hpoint : sign ≠ '.') : c ≠ sign := by
    rintro rfl
    rcases hc with h | ⟨h, -⟩
    · exact Bool.false_ne_true (hdigit.symm.trans h)
    · exact hpoint h
  rw [hchars]
  unfold readSign
  split
  next heq => exact absurd (List.cons.inj heq).1 (hne rfl (by decide))
  next heq => exact absurd (List.cons.inj heq).1 (hne rfl (by decide))
  · rfl

/-- The text of a literal is its number, if this is a finite one. -/
theorem ofText?_chars (h : n.value.isFinite = true) :
    Binary64.ofText? (String.ofList n.chars) = some n.value := by
  have hliteral : ∀ c ∈ (String.ofList n.chars).toList, isLiteralChar c = true := by
    rw [String.toList_ofList]
    exact fun c ↦ isLiteralChar_of_mem
  rw [Binary64.ofText?_of_forall hliteral, String.toList_ofList, readChars, readSign_chars]
  dsimp only
  rw [readDecimal_chars]
  exact if_pos h

end Numeral

end FieldTags.Literal
