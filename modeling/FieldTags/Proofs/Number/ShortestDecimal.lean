import FieldTags.Number.Decimal
import FieldTags.Proofs.Number.Rounding
import Mathlib.Data.List.TakeWhile

/-!
# Decimal fractions and binary numbers

The magnitude nearest to a decimal fraction depends on its value only, so zeros may move from the
digits to the power of ten. The shortest decimal fraction of a magnitude is nearest to it. A
fraction that is too large or too small for its power of ten to be taken would be rounded to the
same number if the power were taken.
-/

namespace FieldTags.Decimal

/-! ## Digits -/

theorem digitsValue_eq_ofDigitChars (digits : List Char) :
    digitsValue digits = Nat.ofDigitChars 10 digits 0 :=
  Nat.ofDigitChars_eq_foldl.symm

@[simp]
theorem digitsValue_toDigits (n : Nat) : digitsValue (Nat.toDigits 10 n) = n := by
  rw [digitsValue_eq_ofDigitChars, Nat.ofDigitChars_ten_toDigits]

/-- A zero behind the digits multiplies by ten. -/
theorem digitsValue_append_zeros (digits : List Char) (count : Nat) :
    digitsValue (digits ++ List.replicate count '0') = digitsValue digits * 10 ^ count := by
  rw [digitsValue_eq_ofDigitChars, Nat.ofDigitChars_append, Nat.ofDigitChars_replicate_zero,
    ← digitsValue_eq_ofDigitChars, Nat.mul_comm]

/-- A zero in front of the digits changes nothing. -/
theorem digitsValue_zeros_append (count : Nat) (digits : List Char) :
    digitsValue (List.replicate count '0' ++ digits) = digitsValue digits := by
  rw [digitsValue_eq_ofDigitChars, Nat.ofDigitChars_append, Nat.ofDigitChars_replicate_zero,
    Nat.mul_zero, ← digitsValue_eq_ofDigitChars]

theorem digitValue_le {c : Char} (h : c.isDigit = true) : c.toNat - '0'.toNat ≤ 9 := by
  simp only [Char.isDigit, Bool.and_eq_true, decide_eq_true_eq] at h
  have hnine : c.toNat ≤ 57 := h.2
  have hzero : '0'.toNat = 48 := rfl
  omega

/-- The value of digits is below the power of ten of their number. -/
theorem digitsValue_lt {digits : List Char} (h : ∀ c ∈ digits, c.isDigit = true) :
    digitsValue digits < 10 ^ digits.length := by
  -- The digits before are kept as a value that the rest of them is added to.
  have hfrom (value : Nat) : digits.foldl
      (fun value digit ↦ 10 * value + (digit.toNat - '0'.toNat)) value <
        (value + 1) * 10 ^ digits.length := by
    induction digits generalizing value with
    | nil =>
      rw [List.foldl_nil, List.length_nil, Nat.pow_zero]
      omega
    | cons digit digits ih =>
      have hdigit := digitValue_le (h digit List.mem_cons_self)
      have hdigits : ∀ c ∈ digits, c.isDigit = true := fun c hc ↦ h c (List.mem_cons_of_mem _ hc)
      rw [List.foldl_cons, List.length_cons]
      calc
        _ < (10 * value + (digit.toNat - '0'.toNat) + 1) * 10 ^ digits.length := ih hdigits _
        _ ≤ (value + 1) * 10 * 10 ^ digits.length := Nat.mul_le_mul_right _ (by omega)
        _ = (value + 1) * 10 ^ (digits.length + 1) := by
          rw [Nat.pow_succ, Nat.mul_assoc, Nat.mul_comm 10]
  have hzero := hfrom 0
  rwa [Nat.zero_add, Nat.one_mul] at hzero

theorem digitCount_pos (n : Nat) : 0 < digitCount n :=
  Nat.length_toDigits_pos

/-- A number is below the power of ten of its digit count. -/
theorem lt_pow_digitCount (n : Nat) : n < 10 ^ digitCount n :=
  (Nat.length_toDigits_le_iff (by decide) (digitCount_pos n)).mp (Nat.le_refl _)

/-- A positive number is not below the power of ten of its other digits. -/
theorem pow_digitCount_le {n : Nat} (h : n ≠ 0) : 10 ^ (digitCount n - 1) ≤ n := by
  by_cases hcount : digitCount n - 1 = 0
  · rw [hcount]
    exact Nat.one_le_iff_ne_zero.mpr h
  · refine Nat.le_of_not_lt fun hlt ↦ ?_
    have hlength : digitCount n ≤ digitCount n - 1 :=
      (Nat.length_toDigits_le_iff (by decide) (Nat.pos_of_ne_zero hcount)).mpr hlt
    have hpos := digitCount_pos n
    omega

/-! ## The nearest magnitude -/

theorem nearestRank_le (d : Decimal) : d.nearestRank ≤ Binary64.infinityRank := by
  unfold nearestRank
  split <;> exact Binary64.nearestRank_le _ _

/-- The nearest magnitude, with the point moved any number of places that leaves a whole number. -/
theorem nearestRank_eq (d : Decimal) (places : Nat) (h : 0 ≤ d.exponent + places) :
    d.nearestRank = Binary64.nearestRank
      (d.coefficient * Binary64.grainsInOne * 10 ^ (d.exponent + places).toNat) (10 ^ places) := by
  by_cases hexponent : 0 ≤ d.exponent
  · have hshift : (d.exponent + places).toNat = places + d.exponent.toNat := by omega
    have hpos : 0 < 10 ^ places := pow_ten_pos _
    rw [nearestRank, if_pos hexponent, tenPow_eq_pow, hshift, Nat.pow_add, Nat.mul_left_comm,
      ← Binary64.nearestRank_mul_left hpos, Nat.mul_one]
  · obtain ⟨more, hmore⟩ : ∃ more, more = (d.exponent + places).toNat := ⟨_, rfl⟩
    have hplaces : places = more + (-d.exponent).toNat := by omega
    have hpos : 0 < 10 ^ more := pow_ten_pos _
    rw [nearestRank, if_neg hexponent, tenPow_eq_pow, ← hmore, hplaces, Nat.pow_add,
      Nat.mul_comm _ (10 ^ more), Binary64.nearestRank_mul_left hpos]

/-- Zeros may move from the digits to the power of ten. -/
theorem nearestRank_mul_pow (coefficient zeros : Nat) (exponent : Int) :
    nearestRank ⟨coefficient * 10 ^ zeros, exponent⟩ =
      nearestRank ⟨coefficient, exponent + zeros⟩ := by
  have hplaces : 0 ≤ exponent + ((-exponent).toNat : Int) := by omega
  have hmore : 0 ≤ exponent + zeros + ((-exponent).toNat : Int) := by omega
  have hsum : (exponent + zeros + ((-exponent).toNat : Int)).toNat =
      zeros + (exponent + ((-exponent).toNat : Int)).toNat := by omega
  rw [nearestRank_eq ⟨coefficient * 10 ^ zeros, exponent⟩ _ hplaces,
    nearestRank_eq ⟨coefficient, exponent + zeros⟩ _ hmore, hsum, Nat.pow_add,
    Nat.mul_right_comm coefficient, Nat.mul_assoc _ (10 ^ zeros)]

theorem nearestRank_zero (exponent : Int) : nearestRank ⟨0, exponent⟩ = 0 := by
  have hplaces : 0 ≤ exponent + ((-exponent).toNat : Int) := by omega
  have hpos : 0 < 10 ^ (-exponent).toNat := pow_ten_pos _
  rw [nearestRank_eq ⟨0, exponent⟩ _ hplaces, Nat.zero_mul, Nat.zero_mul]
  exact Binary64.nearestRank_eq_zero hpos

/-! ## The shortest fraction -/

/-- The zeros at the end of the digits of a number are a power of ten that divides it. -/
theorem div_mul_trailingZeros (n : Nat) :
    let zeros := ((Nat.toDigits 10 n).reverse.takeWhile (· == '0')).length
    n / 10 ^ zeros * 10 ^ zeros = n := by
  intro zeros
  apply Nat.div_mul_cancel
  have hzeros : (Nat.toDigits 10 n).reverse.takeWhile (· == '0') = List.replicate zeros '0' :=
    List.eq_replicate_iff.mpr ⟨rfl, fun c hc ↦ by simpa using List.mem_takeWhile_imp hc⟩
  have hdigits : Nat.toDigits 10 n =
      ((Nat.toDigits 10 n).reverse.dropWhile (· == '0')).reverse ++ List.replicate zeros '0' := by
    have hsplit := List.takeWhile_append_dropWhile (p := (· == '0'))
      (l := (Nat.toDigits 10 n).reverse)
    rw [hzeros] at hsplit
    have hreverse := congrArg List.reverse hsplit
    rw [List.reverse_append, List.reverse_replicate, List.reverse_reverse] at hreverse
    exact hreverse.symm
  have hvalue := congrArg digitsValue hdigits
  rw [digitsValue_toDigits, digitsValue_append_zeros] at hvalue
  exact ⟨_, hvalue.trans (Nat.mul_comm _ _)⟩

/-- Without the zeros at its end a fraction has the same nearest magnitude. -/
theorem nearestRank_trimZeros (d : Decimal) : d.trimZeros.nearestRank = d.nearestRank := by
  obtain ⟨coefficient, exponent⟩ := d
  unfold trimZeros
  dsimp only
  by_cases hzero : coefficient = 0
  · rw [if_pos hzero, hzero, nearestRank_zero, nearestRank_zero]
  · have hcancel := div_mul_trailingZeros coefficient
    dsimp only at hcancel
    rw [if_neg hzero, tenPow_eq_pow, ← nearestRank_mul_pow, hcancel]

/-- The exact value of a magnitude is nearest to it. -/
theorem nearestRank_ofGrains {rank : Nat} (h : rank ≤ Binary64.infinityRank) :
    (ofGrains (Binary64.grains rank)).nearestRank = rank := by
  have hplaces : (0 : Int) ≤ -1074 + (1074 : Nat) := by decide
  have htoNat : ((-1074 : Int) + (1074 : Nat)).toNat = 0 := rfl
  have hpow : Nat.pow 5 1074 * Binary64.grainsInOne = tenPow 1074 := by decide +kernel
  have hpos : 0 < tenPow 1074 := by decide +kernel
  rw [ofGrains, nearestRank_eq ⟨_, -1074⟩ 1074 hplaces, htoNat, Nat.pow_zero, Nat.mul_one,
    Nat.mul_assoc, hpow, ← tenPow_eq_pow 1074, Nat.mul_comm]
  calc Binary64.nearestRank (tenPow 1074 * Binary64.grains rank) (tenPow 1074)
      = Binary64.nearestRank (tenPow 1074 * Binary64.grains rank) (tenPow 1074 * 1) := by
        rw [Nat.mul_one]
    _ = Binary64.nearestRank (Binary64.grains rank) 1 := Binary64.nearestRank_mul_left hpos _ _
    _ = rank := Binary64.nearestRank_grains h

/-- The shortest fraction of a magnitude is nearest to it. -/
theorem nearestRank_shortest (tie : TieRule) {rank : Nat} (h : rank ≤ Binary64.infinityRank) :
    (shortest tie rank).nearestRank = rank := by
  rw [shortest, nearestRank_trimZeros]
  cases hfind : (candidates tie (Binary64.grains rank)).find? (·.nearestRank == rank) with
  | none => exact nearestRank_ofGrains h
  | some d =>
    have hrank := List.find?_some hfind
    exact beq_iff_eq.mp hrank

/-! ## Large and small fractions -/

/-- More than 310 integral digits are beyond all finite magnitudes. -/
theorem nearestRank_of_large {d : Decimal} (hne : d.coefficient ≠ 0)
    (h : 310 < digitCount d.coefficient + d.exponent) :
    d.nearestRank = Binary64.infinityRank := by
  obtain ⟨places, hplaces⟩ : ∃ places, places = (-d.exponent).toNat := ⟨_, rfl⟩
  obtain ⟨zeros, hzeros⟩ : ∃ zeros, zeros = (d.exponent + places).toNat := ⟨_, rfl⟩
  have hcount := digitCount_pos d.coefficient
  have hpow : 2 ^ 2098 = twoPow 1024 * Binary64.grainsInOne := by decide +kernel
  have hbound : twoPow 1024 ≤ tenPow 310 := by decide +kernel
  rw [nearestRank_eq d places (by omega), ← hzeros]
  apply Binary64.nearestRank_eq_infinityRank (Nat.le_refl 2098)
  rw [Nat.le_div_iff_mul_le (pow_ten_pos places)]
  calc 2 ^ 2098 * 10 ^ places
      = twoPow 1024 * 10 ^ places * Binary64.grainsInOne := by
        rw [hpow, Nat.mul_right_comm]
    _ ≤ tenPow 310 * 10 ^ places * Binary64.grainsInOne :=
        Nat.mul_le_mul_right _ (Nat.mul_le_mul_right _ hbound)
    _ = 10 ^ (310 + places) * Binary64.grainsInOne := by rw [tenPow_eq_pow, Nat.pow_add]
    _ ≤ 10 ^ (digitCount d.coefficient - 1 + zeros) * Binary64.grainsInOne :=
        Nat.mul_le_mul_right _ (Nat.pow_le_pow_right (by decide) (by omega))
    _ = 10 ^ (digitCount d.coefficient - 1) * Binary64.grainsInOne * 10 ^ zeros := by
        rw [Nat.pow_add, Nat.mul_right_comm]
    _ ≤ d.coefficient * Binary64.grainsInOne * 10 ^ zeros :=
        Nat.mul_le_mul_right _ (Nat.mul_le_mul_right _ (pow_digitCount_le hne))

/-- More than 330 zeros behind the point leave less than half of the least magnitude. -/
theorem nearestRank_of_small {d : Decimal}
    (h : digitCount d.coefficient + d.exponent < -330) : d.nearestRank = 0 := by
  obtain ⟨places, hplaces⟩ : ∃ places, places = (-d.exponent).toNat := ⟨_, rfl⟩
  have hbound : 2 * Binary64.grainsInOne ≤ tenPow 331 := by decide +kernel
  have hzero : (d.exponent + places).toNat = 0 := by omega
  rw [nearestRank_eq d places (by omega), hzero, Nat.pow_zero, Nat.mul_one]
  apply Binary64.nearestRank_eq_zero
  calc 2 * (d.coefficient * Binary64.grainsInOne)
      = d.coefficient * (2 * Binary64.grainsInOne) := Nat.mul_left_comm _ _ _
    _ < 10 ^ digitCount d.coefficient * (2 * Binary64.grainsInOne) :=
        Nat.mul_lt_mul_of_pos_right (lt_pow_digitCount _)
          (Nat.mul_pos Nat.two_pos Binary64.grainsInOne_pos)
    _ ≤ 10 ^ digitCount d.coefficient * tenPow 331 := Nat.mul_le_mul_left _ hbound
    _ = 10 ^ (digitCount d.coefficient + 331) := by rw [tenPow_eq_pow, Nat.pow_add]
    _ ≤ 10 ^ places := Nat.pow_le_pow_right (by decide) (by omega)

/-- Reading a fraction takes its nearest magnitude, also where no power of ten is taken. -/
theorem toBinary64_eq (negative : Bool) (d : Decimal) :
    d.toBinary64 negative = .signed negative d.nearestRank d.nearestRank_le := by
  unfold toBinary64
  dsimp only
  split_ifs with hzero hlarge hsmall
  · obtain ⟨coefficient, exponent⟩ := d
    obtain rfl : coefficient = 0 := hzero
    simp only [nearestRank_zero, Binary64.zeroOfSign]
  · simp only [nearestRank_of_large hzero hlarge, Binary64.infinity]
  · simp only [nearestRank_of_small hsmall, Binary64.zeroOfSign]
  · simp only [Nat.min_eq_left d.nearestRank_le]

end FieldTags.Decimal
