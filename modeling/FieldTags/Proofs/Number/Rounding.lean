import FieldTags.Number.Binary64
import Mathlib.Algebra.Order.Ring.Nat
import Mathlib.Tactic.Common

/-!
# Rounding to binary numbers

Rounding depends on the quotient only, not on the numbers that it is written with. A magnitude that
is there is its own nearest one, everything from the magnitude behind the greatest finite one on is
nearest to infinity, and everything below half of the least positive one is nearest to zero.
-/

namespace FieldTags

theorem twoPow_eq_pow (exponent : Nat) : twoPow exponent = 2 ^ exponent := rfl

theorem pow_add_eq_mul_twoPow (bits exponent : Nat) :
    2 ^ (bits + exponent) = 2 ^ bits * twoPow exponent :=
  Nat.pow_add 2 bits exponent

theorem tenPow_eq_pow (exponent : Nat) : tenPow exponent = 10 ^ exponent := rfl

theorem pow_ten_pos (exponent : Nat) : 0 < 10 ^ exponent :=
  Nat.pow_pos (by decide)

namespace Binary64

theorem grainsInOne_pos : 0 < grainsInOne := by
  decide +kernel

/-! ## Quotients -/

/-- A common factor does not change a rounded quotient. -/
theorem roundHalfEven_mul_left {factor : Nat} (hfactor : 0 < factor)
    (numerator denominator : Nat) :
    roundHalfEven (factor * numerator) (factor * denominator) =
      roundHalfEven numerator denominator := by
  have hquotient : factor * numerator / (factor * denominator) = numerator / denominator :=
    Nat.mul_div_mul_left numerator denominator hfactor
  have hremainder : 2 * (factor * numerator % (factor * denominator)) =
      factor * (2 * (numerator % denominator)) := by
    rw [Nat.mul_mod_mul_left, Nat.mul_left_comm]
  have hgreater : (2 * (factor * numerator % (factor * denominator)) > factor * denominator) ↔
      2 * (numerator % denominator) > denominator := by
    rw [hremainder]
    exact Nat.mul_lt_mul_left hfactor
  have hequal : (2 * (factor * numerator % (factor * denominator)) == factor * denominator) =
      (2 * (numerator % denominator) == denominator) := by
    rw [hremainder, Bool.eq_iff_iff, beq_iff_eq, beq_iff_eq]
    exact Nat.mul_right_inj (Nat.ne_of_gt hfactor)
  simp only [roundHalfEven, hquotient, hgreater, hequal]

/-- A whole quotient is not rounded. -/
theorem roundHalfEven_mul {denominator : Nat} (h : 0 < denominator) (quotient : Nat) :
    roundHalfEven (quotient * denominator) denominator = quotient := by
  simp [roundHalfEven, Nat.mul_div_cancel quotient h, Nat.ne_of_lt h]

/-- Rounding never goes below the whole part. -/
theorem div_le_roundHalfEven (numerator denominator : Nat) :
    numerator / denominator ≤ roundHalfEven numerator denominator := by
  unfold roundHalfEven
  dsimp only
  split
  · exact Nat.le_succ _
  · exact Nat.le_refl _

/-- Rounding goes to the next whole number at most. -/
theorem roundHalfEven_le (numerator denominator : Nat) :
    roundHalfEven numerator denominator ≤ numerator / denominator + 1 := by
  unfold roundHalfEven
  dsimp only
  split
  · exact Nat.le_refl _
  · exact Nat.le_succ _

/-- Less than a half is rounded to zero. -/
theorem roundHalfEven_eq_zero {numerator denominator : Nat} (h : 2 * numerator < denominator) :
    roundHalfEven numerator denominator = 0 := by
  have hlt : numerator < denominator := by omega
  have hgreater : ¬ 2 * numerator > denominator := by omega
  simp [roundHalfEven, Nat.div_eq_of_lt hlt, Nat.mod_eq_of_lt hlt, hgreater]

/-! ## Ranks -/

/-- A common factor does not change the nearest rank. -/
theorem nearestRank_mul_left {factor : Nat} (hfactor : 0 < factor)
    (numerator denominator : Nat) :
    nearestRank (factor * numerator) (factor * denominator) =
      nearestRank numerator denominator := by
  simp only [nearestRank, Nat.mul_div_mul_left numerator denominator hfactor, Nat.mul_assoc,
    roundHalfEven_mul_left hfactor]

/-- The scale of a magnitude is what its rank says. -/
theorem log2_mul_twoPow {significand scale : Nat} (hlt : significand < 2 ^ 53)
    (hle : scale ≠ 0 → 2 ^ 52 ≤ significand) :
    Nat.log2 (significand * 2 ^ scale) - 52 = scale := by
  by_cases hscale : scale = 0
  · subst hscale
    rw [Nat.pow_zero, Nat.mul_one]
    by_cases hzero : significand = 0
    · subst hzero
      rfl
    · have hlog := (Nat.log2_lt hzero).mpr hlt
      omega
  · have hlow := hle hscale
    have hne : significand * 2 ^ scale ≠ 0 :=
      Nat.mul_ne_zero (by omega) (Nat.ne_of_gt (Nat.two_pow_pos scale))
    have hlog : Nat.log2 (significand * 2 ^ scale) = 52 + scale := by
      rw [Nat.log2_eq_iff hne]
      constructor
      · rw [Nat.pow_add]
        exact Nat.mul_le_mul_right _ hlow
      · rw [Nat.add_right_comm, Nat.pow_add]
        exact Nat.mul_lt_mul_of_pos_right hlt (Nat.two_pow_pos scale)
    omega

/-- The magnitude of a rank that is made of a scale and a significand. -/
theorem grains_of_scale {scale significand : Nat} (hle : significand ≤ 2 ^ 53)
    (hlow : scale ≠ 0 → 2 ^ 52 ≤ significand) :
    grains (scale * 2 ^ 52 + significand) = significand * 2 ^ scale := by
  rcases Nat.lt_or_eq_of_le hle with hlt | rfl
  · have hscale : (scale * 2 ^ 52 + significand) / 2 ^ 52 - 1 = scale := by omega
    simp only [grains, twoPow_eq_pow, hscale, Nat.add_sub_cancel_left]
  · -- This is the first magnitude of the next scale.
    have hscale : (scale * 2 ^ 52 + 2 ^ 53) / 2 ^ 52 - 1 = scale + 1 := by omega
    have hrest : scale * 2 ^ 52 + 2 ^ 53 - (scale + 1) * 2 ^ 52 = 2 ^ 52 := by omega
    simp only [grains, twoPow_eq_pow, hscale, hrest]
    rw [Nat.pow_succ 2 scale, Nat.pow_succ 2 52, Nat.mul_assoc, Nat.mul_comm 2]

/-- The magnitude of a rank is nearest to itself. -/
theorem nearestRank_grains {rank : Nat} (h : rank ≤ infinityRank) :
    nearestRank (grains rank) 1 = rank := by
  obtain ⟨scale, hscale⟩ : ∃ scale, scale = rank / twoPow 52 - 1 := ⟨_, rfl⟩
  obtain ⟨significand, hsignificand⟩ : ∃ significand, significand = rank - scale * 2 ^ 52 :=
    ⟨_, rfl⟩
  have hgrains : grains rank = significand * 2 ^ scale := by
    rw [hsignificand, hscale]
    rfl
  rw [twoPow_eq_pow] at hscale
  -- Rounding finds the scale that the rank was taken apart with.
  have hlog : Nat.log2 (grains rank / 1) - 52 = scale := by
    rw [hgrains, Nat.div_one]
    apply log2_mul_twoPow <;> omega
  have hround : roundHalfEven (grains rank) (1 * twoPow scale) = significand := by
    rw [hgrains, Nat.one_mul, twoPow_eq_pow]
    exact roundHalfEven_mul (Nat.two_pow_pos scale) significand
  have hrank : scale * 2 ^ 52 + significand = rank := by omega
  simp only [nearestRank, hlog, hround]
  rw [twoPow_eq_pow, hrank, Nat.min_eq_left h]

/-! ## Significands -/

section Significand

variable {numerator denominator scale : Nat}

/-- A quotient of more than 52 bits has 53 bits above its scale. -/
theorem pow_mul_scale_le (hscale : scale = Nat.log2 (numerator / denominator) - 52)
    (hbits : 52 ≤ Nat.log2 (numerator / denominator)) :
    2 ^ 52 * 2 ^ scale ≤ numerator / denominator := by
  have hne : numerator / denominator ≠ 0 := by
    intro hzero
    rw [hzero] at hbits
    exact absurd hbits (by decide)
  have hexponent : 52 + scale = Nat.log2 (numerator / denominator) := by omega
  rw [← Nat.pow_add, hexponent]
  exact Nat.log2_self_le hne

/-- The rounded significand of such a quotient has 53 bits. -/
theorem pow_le_significand (hscale : scale = Nat.log2 (numerator / denominator) - 52)
    (hbits : 52 ≤ Nat.log2 (numerator / denominator)) :
    2 ^ 52 ≤ roundHalfEven numerator (denominator * 2 ^ scale) := by
  refine Nat.le_trans ?_ (div_le_roundHalfEven _ _)
  rw [← Nat.div_div_eq_div_mul, Nat.le_div_iff_mul_le (Nat.two_pow_pos scale)]
  exact pow_mul_scale_le hscale hbits

/-- Above the scale there are at most 53 bits, and rounding may carry into one more. -/
theorem significand_le_pow (hscale : scale = Nat.log2 (numerator / denominator) - 52) :
    roundHalfEven numerator (denominator * 2 ^ scale) ≤ 2 ^ 53 := by
  have hquotient : numerator / denominator < 2 ^ scale * 2 ^ 53 := by
    rw [← Nat.pow_add]
    refine Nat.lt_of_lt_of_le Nat.lt_log2_self (Nat.pow_le_pow_right (by decide) ?_)
    omega
  have hdiv : numerator / (denominator * 2 ^ scale) < 2 ^ 53 := by
    rw [← Nat.div_div_eq_div_mul]
    exact Nat.div_lt_of_lt_mul hquotient
  exact Nat.le_trans (roundHalfEven_le _ _) hdiv

end Significand

/-! ## Large and small quotients -/

/-- From a power of two on, the nearest magnitude is not below that power. -/
theorem le_nearestRank {numerator denominator scale : Nat}
    (h : 2 ^ (scale + 52) ≤ numerator / denominator) :
    min ((scale + 1) * 2 ^ 52) infinityRank ≤ nearestRank numerator denominator := by
  obtain ⟨found, hfound⟩ : ∃ found, found = Nat.log2 (numerator / denominator) - 52 := ⟨_, rfl⟩
  have hne : numerator / denominator ≠ 0 :=
    Nat.ne_of_gt (Nat.lt_of_lt_of_le (Nat.two_pow_pos _) h)
  have hlog : scale + 52 ≤ Nat.log2 (numerator / denominator) := (Nat.le_log2 hne).mpr h
  have hround := pow_le_significand hfound (by omega)
  simp only [nearestRank, ← hfound, twoPow_eq_pow]
  omega

/-- From the magnitude behind the greatest finite one on, infinity is nearest. -/
theorem nearestRank_eq_infinityRank {numerator denominator bits : Nat} (hbits : 2098 ≤ bits)
    (h : 2 ^ bits ≤ numerator / denominator) :
    nearestRank numerator denominator = infinityRank := by
  obtain ⟨scale, rfl⟩ : ∃ scale, bits = scale + 52 := ⟨bits - 52, by omega⟩
  have hinfinity : infinityRank = 2047 * 2 ^ 52 := rfl
  have hle := le_nearestRank h
  have hge := nearestRank_le numerator denominator
  omega

/-- A magnitude whose rank is that of a power of two at least is not below that power. -/
theorem le_grains {rank scale : Nat} (h : (scale + 1) * 2 ^ 52 ≤ rank) :
    2 ^ (scale + 52) ≤ grains rank := by
  obtain ⟨found, hfound⟩ : ∃ found, found = rank / 2 ^ 52 - 1 := ⟨_, rfl⟩
  have hscale : scale ≤ found := by omega
  have hsignificand : 2 ^ 52 ≤ rank - found * 2 ^ 52 := by omega
  rw [grains]
  simp only [twoPow_eq_pow, ← hfound]
  calc 2 ^ (scale + 52)
      = 2 ^ 52 * 2 ^ scale := by rw [Nat.pow_add, Nat.mul_comm]
    _ ≤ (rank - found * 2 ^ 52) * 2 ^ found :=
        Nat.mul_le_mul hsignificand (Nat.pow_le_pow_right (by decide) hscale)

/-- Well below the greatest finite magnitude, a finite magnitude is nearest. -/
theorem nearestRank_lt_infinityRank {numerator denominator bits : Nat} (hbits : bits ≤ 2096)
    (h : numerator / denominator < 2 ^ bits) :
    nearestRank numerator denominator < infinityRank := by
  obtain ⟨scale, hscale⟩ : ∃ scale, scale = Nat.log2 (numerator / denominator) - 52 := ⟨_, rfl⟩
  have hlog : numerator / denominator ≠ 0 → Nat.log2 (numerator / denominator) < bits :=
    fun hne ↦ (Nat.log2_lt hne).mpr h
  have hscale_le : scale ≤ 2043 := by
    by_cases hzero : numerator / denominator = 0
    · rw [hscale, hzero]
      exact Nat.zero_le _
    · have := hlog hzero
      omega
  have hround := significand_le_pow hscale
  have hinfinity : infinityRank = 2047 * 2 ^ 52 := rfl
  simp only [nearestRank, ← hscale, twoPow_eq_pow]
  omega

/-- Below half of the least positive magnitude, zero is nearest. -/
theorem nearestRank_eq_zero {numerator denominator : Nat} (h : 2 * numerator < denominator) :
    nearestRank numerator denominator = 0 := by
  have hquotient : numerator / denominator = 0 := Nat.div_eq_of_lt (by omega)
  have hscale : Nat.log2 0 - 52 = 0 := rfl
  have hpow : denominator * twoPow 0 = denominator := Nat.mul_one denominator
  simp only [nearestRank, hquotient, hscale, hpow, roundHalfEven_eq_zero h, Nat.zero_mul]
  exact Nat.min_eq_left (Nat.zero_le _)

end Binary64

end FieldTags
