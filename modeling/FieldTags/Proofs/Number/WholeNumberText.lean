import FieldTags.Proofs.Number.Integers
import FieldTags.Proofs.Number.PlainText

/-!
# Texts of whole numbers

The text of a whole number below `2 ^ 53` is its sign and its digits. The decimal fractions that are
tried for a magnitude have more and more places; of those without any the number itself is one, and
no other of them is rounded to its magnitude. So the fraction that is found is the number, up to
zeros at its end, which the text has again.
-/

namespace FieldTags

namespace Decimal

/-! ## Digits -/

/-- The digits of ten times a number are its digits and a zero, and so on. -/
theorem toDigits_mul_pow {n : Nat} (hpos : 0 < n) (zeros : Nat) :
    Nat.toDigits 10 (n * 10 ^ zeros) = Nat.toDigits 10 n ++ List.replicate zeros '0' := by
  induction zeros with
  | zero => rw [Nat.pow_zero, Nat.mul_one, List.replicate_zero, List.append_nil]
  | succ zeros ih =>
    have hten : n * 10 ^ (zeros + 1) = 10 * (n * 10 ^ zeros) + 0 := by
      rw [Nat.pow_succ, Nat.add_zero, ← Nat.mul_assoc, Nat.mul_comm]
    have hfactor : 0 < n * 10 ^ zeros := Nat.mul_pos hpos (pow_ten_pos zeros)
    rw [hten, ← Nat.toDigits_append_toDigits (by decide) hfactor (by decide), ih,
      Nat.toDigits_zero, List.append_assoc, ← List.replicate_succ']

theorem digitCount_mul_pow {n : Nat} (hpos : 0 < n) (zeros : Nat) :
    digitCount (n * 10 ^ zeros) = digitCount n + zeros := by
  rw [digitCount, toDigits_mul_pow hpos, List.length_append, List.length_replicate, digitCount]

theorem digitCount_le_iff {n count : Nat} (h : 0 < count) :
    digitCount n ≤ count ↔ n < 10 ^ count :=
  Nat.length_toDigits_le_iff (by decide) h

/-! ## The fraction that is found -/

variable {m : Nat}

/-- The first digit of a whole number stands where its digit count says. -/
theorem leadPosition_whole (hpos : 0 < m) :
    leadPosition (m * Binary64.grainsInOne) = digitCount m := by
  have hquotient : m * Binary64.grainsInOne * tenPow 400 / Binary64.grainsInOne = m * 10 ^ 400 := by
    rw [Nat.mul_right_comm, Nat.mul_div_cancel _ Binary64.grainsInOne_pos, tenPow_eq_pow]
  rw [leadPosition, hquotient, digitCount_mul_pow hpos]
  omega

/-- The digits of the fraction next below a magnitude whose last digit counts `10 ^ exponent`. -/
def coefficientBelow (grains : Nat) (exponent : Int) : Nat :=
  (if exponent ≤ 0 then grains * tenPow (-exponent).toNat else grains) /
    (if exponent ≤ 0 then Binary64.grainsInOne else Binary64.grainsInOne * tenPow exponent.toNat)

theorem mem_neighbours {tie : TieRule} {grains : Nat} {exponent : Int} {d : Decimal} :
    d ∈ neighbours tie grains exponent ↔
      d = ⟨coefficientBelow grains exponent, exponent⟩ ∨
        d = ⟨coefficientBelow grains exponent + 1, exponent⟩ := by
  have hreverse (above : Bool) (pair : List Decimal) :
      d ∈ (if above then pair.reverse else pair) ↔ d ∈ pair := by
    cases above with
    | false => rfl
    | true => exact List.mem_reverse
  unfold neighbours
  exact (hreverse _ _).trans List.mem_pair

/-- A whole number is its own neighbour among those without places. -/
theorem whole_mem_neighbours (tie : TieRule) (m : Nat) :
    ⟨m, 0⟩ ∈ neighbours tie (m * Binary64.grainsInOne) 0 := by
  have hone : tenPow (-(0 : Int)).toNat = 1 := rfl
  have hbelow : coefficientBelow (m * Binary64.grainsInOne) 0 = m := by
    rw [coefficientBelow, if_pos (Int.le_refl 0), if_pos (Int.le_refl 0), hone, Nat.mul_one,
      Nat.mul_div_cancel _ Binary64.grainsInOne_pos]
  rw [mem_neighbours, hbelow]
  exact .inl rfl

/-- The first of the fractions that is rounded to the magnitude of a whole number is this number,
with zeros moved to its power of ten. -/
theorem find?_candidates_whole (tie : TieRule) (hpos : 0 < m) (hlt : m < 2 ^ 53) :
    ∃ coefficient zeros : Nat, coefficient * 10 ^ zeros = m ∧
      (candidates tie (m * Binary64.grainsInOne)).find?
        (·.nearestRank == Binary64.nearestRank (m * Binary64.grainsInOne) 1) =
          some ⟨coefficient, zeros⟩ := by
  obtain ⟨count, hcount⟩ : ∃ count, digitCount m = count + 1 :=
    ⟨digitCount m - 1, by have := digitCount_pos m; omega⟩
  have hfew : digitCount m ≤ 16 := (digitCount_le_iff (by decide)).mpr (by omega)
  obtain ⟨more, hmore⟩ : ∃ more, 17 = count + 1 + more := ⟨17 - (count + 1), by omega⟩
  have hwhole (exponent : Nat) (coefficient : Nat) :
      (Decimal.mk coefficient exponent).nearestRank =
        Binary64.nearestRank (coefficient * 10 ^ exponent * Binary64.grainsInOne) 1 := by
    rw [Decimal.nearestRank, if_pos (Int.natCast_nonneg exponent), Int.toNat_natCast,
      tenPow_eq_pow, Nat.mul_right_comm]
  rw [candidates, leadPosition_whole hpos, hcount, hmore, List.range_add, List.flatMap_append,
    List.find?_append]
  -- The number itself is the last at which the search can end, so no fraction with places is tried.
  have hfound : (List.find? (·.nearestRank == Binary64.nearestRank (m * Binary64.grainsInOne) 1)
      ((List.range (count + 1)).flatMap fun index ↦ neighbours tie (m * Binary64.grainsInOne)
        ((count + 1 : Nat) - (index + 1 : Nat)))).isSome = true := by
    rw [List.find?_isSome]
    have hlast : count ∈ List.range (count + 1) := List.mem_range.mpr (Nat.lt_succ_self count)
    refine ⟨⟨m, 0⟩, List.mem_flatMap.mpr ⟨count, hlast, ?_⟩, ?_⟩
    · rw [Int.sub_self]
      exact whole_mem_neighbours tie m
    · have hself := hwhole 0 m
      rw [Nat.pow_zero, Nat.mul_one] at hself
      exact beq_iff_eq.mpr hself
  rw [Option.or_of_isSome hfound]
  obtain ⟨d, hd⟩ := Option.isSome_iff_exists.mp hfound
  obtain ⟨index, hindex, hmem⟩ := List.mem_flatMap.mp (List.mem_of_find?_eq_some hd)
  have hexponent : d.exponent = (count + 1 : Nat) - (index + 1 : Nat) := by
    rcases mem_neighbours.mp hmem with rfl | rfl <;> rfl
  have hrank := List.find?_some hd
  rw [List.mem_range] at hindex
  obtain ⟨coefficient, exponent⟩ := d
  obtain rfl : exponent = (count - index : Nat) := by
    dsimp only at hexponent
    omega
  rw [beq_iff_eq, hwhole] at hrank
  exact ⟨coefficient, count - index, Binary64.eq_of_nearestRank_eq hlt hrank, hd⟩

theorem trimZeros_of_ne_zero {d : Decimal} (h : d.coefficient ≠ 0) :
    ∃ coefficient zeros : Nat, coefficient * 10 ^ zeros = d.coefficient ∧
      d.trimZeros = ⟨coefficient, d.exponent + zeros⟩ := by
  refine ⟨_, _, div_mul_trailingZeros d.coefficient, ?_⟩
  rw [trimZeros, if_neg h, tenPow_eq_pow]

/-- The shortest fraction of a whole number is this number. -/
theorem shortest_whole (tie : TieRule) {rank : Nat} (hrank : rank ≤ Binary64.infinityRank)
    (hpos : 0 < m) (hlt : m < 2 ^ 53)
    (h : Binary64.grains rank = m * Binary64.grainsInOne) :
    ∃ coefficient zeros : Nat, coefficient * 10 ^ zeros = m ∧
      shortest tie rank = ⟨coefficient, zeros⟩ := by
  obtain ⟨found, places, hfound, hfind⟩ := find?_candidates_whole tie hpos hlt
  rw [← h, Binary64.nearestRank_grains hrank] at hfind
  have hne : found ≠ 0 := by
    rintro rfl
    omega
  obtain ⟨coefficient, zeros, hcoefficient, htrim⟩ :=
    trimZeros_of_ne_zero (d := ⟨found, places⟩) hne
  refine ⟨coefficient, places + zeros, ?_, ?_⟩
  · rw [Nat.add_comm, Nat.pow_add, ← Nat.mul_assoc, hcoefficient, hfound]
  · rw [shortest, hfind, Option.getD_some, htrim, Int.natCast_add]

end Decimal

/-! ## Texts -/

/-- The characters of an integer: a minus sign if it is negative, and its digits. -/
def integerChars (n : Int) : List Char :=
  (if n < 0 then ['-'] else []) ++ Nat.toDigits 10 n.natAbs

namespace NumberLayout

/-- The magnitude of a whole number is written in its digits. -/
theorem magnitudeChars_whole {rank m : Nat} (hrank : rank ≤ Binary64.infinityRank)
    (hlt : m < 2 ^ 53) (h : Binary64.grains rank = m * Binary64.grainsInOne) :
    magnitudeChars rank = Nat.toDigits 10 m := by
  by_cases hzero : m = 0
  · subst hzero
    rw [Nat.zero_mul, Binary64.grains_eq_zero_iff hrank] at h
    subst h
    rfl
  · have hne : rank ≠ 0 := by
      rintro rfl
      rw [Binary64.grains_zero] at h
      exact hzero (Binary64.eq_zero_of_mul_grainsInOne h.symm)
    obtain ⟨coefficient, zeros, hm, hshortest⟩ :=
      Decimal.shortest_whole .up hrank (Nat.pos_of_ne_zero hzero) hlt h
    have hcoefficient : 0 < coefficient := by
      refine Nat.pos_of_ne_zero fun hcoefficient ↦ hzero ?_
      rw [← hm, hcoefficient, Nat.zero_mul]
    rw [magnitudeChars, shownDecimal, if_neg hne, hshortest]
    dsimp only
    rw [positional, if_pos (Int.natCast_nonneg zeros), Int.toNat_natCast,
      if_neg Bool.false_ne_true, List.append_nil, ← Decimal.toDigits_mul_pow hcoefficient, hm]

end NumberLayout

namespace Binary64

theorem scriptText_of_not_isZero {x : Binary64} (hfinite : x.isFinite = true)
    (h : x.isZero = false) : x.scriptText = NumberLayout.plain.text x := by
  cases x with
  | nan => cases hfinite
  | signed negative rank hrank =>
    rw [scriptText, if_neg (Bool.eq_false_iff.mp h)]
    exact if_neg (Nat.ne_of_lt (of_decide_eq_true hfinite))

/-- The text of a whole number is its sign and its digits. -/
theorem toList_scriptText_whole {x : Binary64} {n : Int} (hfinite : x.isFinite = true)
    (hlt : n.natAbs < 2 ^ 53) (h : x.grainValue = n * grainsInOne) :
    x.scriptText.toList = integerChars n := by
  cases x with
  | nan => cases hfinite
  | signed negative rank hrank =>
    have hgrains := grains_eq_of_grainValue h
    have hn := eq_of_grainValue_signed hgrains h
    by_cases hzero : rank = 0
    · subst hzero
      rw [grains_zero] at hgrains
      rw [Int.natAbs_eq_zero.mp (eq_zero_of_mul_grainsInOne hgrains.symm), scriptText, isZero,
        if_pos (beq_self_eq_true 0)]
      rfl
    · have hpos : n.natAbs ≠ 0 := by
        intro hmagnitude
        rw [hmagnitude, Nat.zero_mul, grains_eq_zero_iff hrank] at hgrains
        exact hzero hgrains
      have hlt_infinity : rank < infinityRank := of_decide_eq_true hfinite
      rw [scriptText_of_not_isZero hfinite (beq_false_of_ne hzero),
        NumberLayout.toList_plain_text hrank hlt_infinity,
        NumberLayout.magnitudeChars_whole hrank hlt hgrains, integerChars]
      cases negative with
      | false =>
        rw [if_neg Bool.false_ne_true] at hn ⊢
        rw [if_neg (by omega), List.nil_append]
      | true =>
        rw [if_pos rfl] at hn ⊢
        rw [if_pos (by omega), List.singleton_append]

/-- The sign and the digits of an integer are the plain text of a number. -/
theorem exists_plain_text_integerChars {n : Int} (hlt : n.natAbs < 2 ^ 53) :
    ∃ x : Binary64, x.isFinite = true ∧ (NumberLayout.plain.text x).toList = integerChars n := by
  by_cases hzero : n = 0
  · subst hzero
    exact ⟨.ofNat 0, by decide +kernel, by decide +kernel⟩
  · have hfinite : (ofInt n).isFinite = true := isFinite_ofInt (by decide) hlt
    have hvalue := grainValue_ofInt_of_le (Nat.le_of_lt hlt)
    have hnot : (ofInt n).isZero = false := by
      rw [Bool.eq_false_iff, Ne, isZero_iff_grainValue hfinite, hvalue, Int.mul_eq_zero]
      have hgrains : (grainsInOne : Int) ≠ 0 := Int.natCast_ne_zero.mpr (Nat.ne_of_gt grainsInOne_pos)
      exact fun h ↦ h.elim hzero hgrains
    refine ⟨ofInt n, hfinite, ?_⟩
    rw [← scriptText_of_not_isZero hfinite hnot]
    exact toList_scriptText_whole hfinite hlt hvalue

end Binary64

end FieldTags
