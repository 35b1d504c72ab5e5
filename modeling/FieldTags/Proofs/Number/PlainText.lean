import FieldTags.Number.Layout
import FieldTags.Number.Literal
import FieldTags.Proofs.Number.ShortestDecimal
import FieldTags.Proofs.Text.Trimming

/-!
# Reading plain number texts back

The plain text of a finite number reads back as the same number. The digits that the text has are
those of the shortest decimal fraction; zeros that fill up to the point change its form, not its
value.
-/

namespace FieldTags

namespace Literal

/-- A character that an unsigned plain number text can have. -/
def isPlain (c : Char) : Bool :=
  c.isDigit || c == '.'

/-! ## Decimal literals -/

/-- What starts with a digit or a point has no sign. -/
theorem readSign_of_isPlain {cs : List Char} (h : ∀ c ∈ cs, isPlain c = true) :
    readSign cs = (false, cs) := by
  unfold readSign
  split
  · exact absurd (h '-' List.mem_cons_self) (by decide)
  · exact absurd (h '+' List.mem_cons_self) (by decide)
  · rfl

/-- Digits alone are a whole number. -/
theorem readDecimal_digits {digits : List Char} (hne : digits ≠ [])
    (hdigits : ∀ c ∈ digits, c.isDigit = true) :
    readDecimal digits = some ⟨Decimal.digitsValue digits, 0⟩ := by
  have htake : digits.takeWhile Char.isDigit = digits := List.takeWhile_eq_self_iff.mpr hdigits
  have hdrop : digits.dropWhile Char.isDigit = [] := List.dropWhile_eq_nil_iff.mpr hdigits
  simp [readDecimal, htake, hdrop, readFraction, readExponent, hne]

/-- Digits around a point are a number with as many places as there are digits behind it. -/
theorem readDecimal_point {whole fraction : List Char} (hne : whole ≠ [])
    (hwhole : ∀ c ∈ whole, c.isDigit = true) (hfraction : ∀ c ∈ fraction, c.isDigit = true) :
    readDecimal (whole ++ '.' :: fraction) =
      some ⟨Decimal.digitsValue (whole ++ fraction), -fraction.length⟩ := by
  have hpoint : ∀ c ∈ ('.' :: fraction).head?, c.isDigit = false := by
    intro c hc
    cases hc
    rfl
  have htake : (whole ++ '.' :: fraction).takeWhile Char.isDigit = whole :=
    Text.takeWhile_append_of_head? hwhole hpoint
  have hdrop : (whole ++ '.' :: fraction).dropWhile Char.isDigit = '.' :: fraction :=
    Text.dropWhile_append_of_head? hwhole hpoint
  have htakeFraction : fraction.takeWhile Char.isDigit = fraction :=
    List.takeWhile_eq_self_iff.mpr hfraction
  have hdropFraction : fraction.dropWhile Char.isDigit = [] :=
    List.dropWhile_eq_nil_iff.mpr hfraction
  simp [readDecimal, htake, hdrop, readFraction, htakeFraction, hdropFraction, readExponent, hne]

/-- An unsigned literal behind a sign, or without one, is a number if it is finite. -/
theorem readChars_of_readDecimal {cs : List Char} {d : Decimal} (negative : Bool)
    (hplain : ∀ c ∈ cs, isPlain c = true) (hread : readDecimal cs = some d)
    (hfinite : d.nearestRank < Binary64.infinityRank) :
    readChars (if negative then '-' :: cs else cs) =
      some (.signed negative d.nearestRank d.nearestRank_le) := by
  have hsign : readSign (if negative then '-' :: cs else cs) = (negative, cs) := by
    cases negative with
    | false => exact readSign_of_isPlain hplain
    | true => rfl
  simp [readChars, hsign, hread, Decimal.toBinary64_eq, Binary64.isFinite, hfinite]

end Literal

namespace NumberLayout

/-! ## Positional texts -/

/-- A positional text is the digits with zeros behind them, or the digits with zeros in front of
them and a point in between. -/
theorem positional_cases {digits : List Char} (hne : digits ≠ []) (exponent : Int) :
    (∃ zeros : Nat, exponent = zeros ∧
      positional false digits exponent = digits ++ List.replicate zeros '0') ∨
    ∃ zeros whole fraction, exponent = -(fraction.length : Int) ∧ whole ≠ [] ∧
      whole ++ fraction = List.replicate zeros '0' ++ digits ∧
      positional false digits exponent = whole ++ '.' :: fraction := by
  by_cases hexponent : 0 ≤ exponent
  · left
    refine ⟨exponent.toNat, by omega, ?_⟩
    rw [positional, if_pos hexponent, if_neg Bool.false_ne_true, List.append_nil]
  · right
    obtain ⟨places, hplaces⟩ : ∃ places, places = (-exponent).toNat := ⟨_, rfl⟩
    rw [positional, if_neg hexponent, ← hplaces]
    dsimp only
    by_cases hlength : places < digits.length
    · refine ⟨0, digits.take (digits.length - places), digits.drop (digits.length - places),
        ?_, ?_, List.take_append_drop _ _, if_pos hlength⟩
      · rw [List.length_drop]
        omega
      · rw [ne_eq, List.take_eq_nil_iff]
        rintro (h | h)
        · omega
        · exact hne h
    · refine ⟨places - digits.length + 1, ['0'],
        List.replicate (places - digits.length) '0' ++ digits, ?_, List.cons_ne_nil _ _, rfl,
        if_neg hlength⟩
      rw [List.length_append, List.length_replicate]
      omega

/-- The digits of a number, and zeros around them, are digits. -/
theorem isDigit_of_mem {n zeros : Nat} {c : Char}
    (h : c ∈ Nat.toDigits 10 n ∨ c ∈ List.replicate zeros '0') : c.isDigit = true := by
  rcases h with h | h
  · exact Nat.isDigit_of_mem_toDigits (by decide) (by decide) h
  · rw [List.eq_of_mem_replicate h]
    rfl

/-- A positional text has digits and at most a point. -/
theorem isPlain_positional {n : Nat} {exponent : Int} {c : Char}
    (h : c ∈ positional false (Nat.toDigits 10 n) exponent) : Literal.isPlain c = true := by
  have hdigit (hc : c.isDigit = true) : Literal.isPlain c = true := by
    rw [Literal.isPlain, hc, Bool.true_or]
  rcases positional_cases Nat.toDigits_ne_nil exponent with
    ⟨zeros, -, htext⟩ | ⟨zeros, whole, fraction, -, -, hdigits, htext⟩
  · rw [htext] at h
    exact hdigit (isDigit_of_mem (List.mem_append.mp h))
  · have hmem : c ∈ whole ++ fraction ∨ c = '.' := by
      rw [htext, List.mem_append, List.mem_cons] at h
      rw [List.mem_append]
      tauto
    rcases hmem with hmem | rfl
    · rw [hdigits] at hmem
      exact hdigit (isDigit_of_mem (List.mem_append.mp hmem).symm)
    · rfl

/-- A positional text is read as a decimal fraction of the same value. -/
theorem readDecimal_positional (d : Decimal) :
    ∃ read, Literal.readDecimal (positional false (Nat.toDigits 10 d.coefficient) d.exponent) =
      some read ∧ read.nearestRank = d.nearestRank := by
  obtain ⟨coefficient, exponent⟩ := d
  dsimp only
  have hne : Nat.toDigits 10 coefficient ≠ [] := Nat.toDigits_ne_nil
  rcases positional_cases hne exponent with
    ⟨zeros, rfl, htext⟩ | ⟨zeros, whole, fraction, rfl, hwhole, hdigits, htext⟩
  · rw [htext]
    refine ⟨_, Literal.readDecimal_digits (List.append_ne_nil_of_left_ne_nil hne _)
      fun c hc ↦ isDigit_of_mem (List.mem_append.mp hc), ?_⟩
    rw [Decimal.digitsValue_append_zeros, Decimal.digitsValue_toDigits,
      Decimal.nearestRank_mul_pow, Int.zero_add]
  · have hall (c : Char) (hc : c ∈ whole ++ fraction) : c.isDigit = true := by
      rw [hdigits] at hc
      exact isDigit_of_mem (List.mem_append.mp hc).symm
    rw [htext]
    refine ⟨_, Literal.readDecimal_point hwhole (fun c hc ↦ hall c (List.mem_append_left _ hc))
      fun c hc ↦ hall c (List.mem_append_right _ hc), ?_⟩
    rw [hdigits, Decimal.digitsValue_zeros_append, Decimal.digitsValue_toDigits]

/-! ## Plain texts -/

/-- The decimal fraction that the plain text of a finite magnitude shows. -/
def shownDecimal (rank : Nat) : Decimal :=
  if rank = 0 then ⟨0, 0⟩ else Decimal.shortest .up rank

theorem nearestRank_shownDecimal {rank : Nat} (h : rank ≤ Binary64.infinityRank) :
    (shownDecimal rank).nearestRank = rank := by
  unfold shownDecimal
  split_ifs with hzero
  · rw [hzero, Decimal.nearestRank_zero]
  · exact Decimal.nearestRank_shortest .up h

/-- The unsigned plain text of a finite magnitude. -/
def magnitudeChars (rank : Nat) : List Char :=
  positional false (Nat.toDigits 10 (shownDecimal rank).coefficient) (shownDecimal rank).exponent

theorem toList_plain_text {negative : Bool} {rank : Nat} (hle : rank ≤ Binary64.infinityRank)
    (h : rank < Binary64.infinityRank) :
    (plain.text (.signed negative rank hle)).toList =
      if negative then '-' :: magnitudeChars rank else magnitudeChars rank := by
  have hdecimal (d : Decimal) : plain.decimalChars d =
      positional false (Nat.toDigits 10 d.coefficient) d.exponent := rfl
  have hmagnitude : (if rank = 0 then plain.decimalChars ⟨0, 0⟩
      else plain.decimalChars (Decimal.shortest plain.tie rank)) = magnitudeChars rank := by
    rw [magnitudeChars, ← hdecimal, shownDecimal]
    split_ifs <;> rfl
  rw [text, if_neg (Nat.ne_of_lt h), hmagnitude, String.toList_ofList]

end NumberLayout

namespace Binary64

/-- The plain text of a finite number has nothing but digits, a point and a minus sign. -/
theorem isPlain_or_eq_minus {x : Binary64} (h : x.isFinite = true) {c : Char}
    (hc : c ∈ (NumberLayout.plain.text x).toList) : Literal.isPlain c = true ∨ c = '-' := by
  cases x with
  | nan => cases h
  | signed negative rank hle =>
    rw [NumberLayout.toList_plain_text hle (of_decide_eq_true h)] at hc
    cases negative with
    | false => exact .inl (NumberLayout.isPlain_positional hc)
    | true =>
      rcases List.mem_cons.mp hc with rfl | hc
      · exact .inr rfl
      · exact .inl (NumberLayout.isPlain_positional hc)

/-- The characters of these texts stand side by side. -/
theorem toNat_bounds_of_mem {x : Binary64} (h : x.isFinite = true) {c : Char}
    (hc : c ∈ (NumberLayout.plain.text x).toList) : 45 ≤ c.toNat ∧ c.toNat ≤ 57 := by
  rcases isPlain_or_eq_minus h hc with hplain | rfl
  · rcases (Bool.or_eq_true _ _).mp hplain with hdigit | hpoint
    · have hbounds : 48 ≤ c.toNat ∧ c.toNat ≤ 57 := Char.isDigit_iff_toNat.mp hdigit
      omega
    · obtain rfl := beq_iff_eq.mp hpoint
      decide
  · decide

/-- The plain text of a finite number is trimmed. -/
theorem trimChars_plain_text {x : Binary64} (h : x.isFinite = true) :
    Text.trimChars (NumberLayout.plain.text x).toList = (NumberLayout.plain.text x).toList := by
  refine Text.trimChars_of_forall fun c hc ↦ ?_
  have hbounds := toNat_bounds_of_mem h hc
  simp only [Text.isBlank, Bool.or_eq_false_iff, Bool.and_eq_false_iff, decide_eq_false_iff_not,
    beq_eq_false_iff_ne]
  omega

/-- The plain text of a finite number reads back. -/
theorem ofText?_plain_text {x : Binary64} (h : x.isFinite = true) :
    ofText? (NumberLayout.plain.text x) = some x := by
  rw [ofText?, trimChars_plain_text h]
  cases x with
  | nan => cases h
  | signed negative rank hle =>
    have hlt : rank < infinityRank := of_decide_eq_true h
    obtain ⟨d, hread, hrank⟩ := NumberLayout.readDecimal_positional (NumberLayout.shownDecimal rank)
    rw [NumberLayout.nearestRank_shownDecimal hle] at hrank
    subst hrank
    rw [NumberLayout.toList_plain_text hle hlt]
    exact Literal.readChars_of_readDecimal negative (fun c ↦ NumberLayout.isPlain_positional)
      hread hlt

theorem plain_text_ne_empty {x : Binary64} (h : x.isFinite = true) :
    NumberLayout.plain.text x ≠ "" := by
  intro hempty
  have hread := ofText?_plain_text h
  rw [hempty] at hread
  cases hread

end Binary64

end FieldTags
