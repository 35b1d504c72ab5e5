import FieldTags.Proofs.Number.Order
import FieldTags.Proofs.Number.ShortestDecimal
import Mathlib.Algebra.Order.Field.Rat
import Mathlib.Data.Nat.Cast.Order.Field
import Mathlib.Tactic.FieldSimp
import Mathlib.Tactic.Linarith
import Mathlib.Tactic.Positivity

/-!
# Rounding takes the nearest magnitude

No magnitude is nearer to a number than the one that the number is rounded to, and where two are
equally near, the even rank is taken. This determines the rank. The rank of infinity stands for the
power of two behind the finite magnitudes, so that exactly the numbers from halfway to this power on
are rounded to infinity.
-/

namespace FieldTags.Binary64

/-- The magnitude of a rank; that of infinity counts as the power of two behind the finite ones. -/
def magnitude (rank : Nat) : ℚ :=
  grains rank / grainsInOne

/-- The rank whose magnitude is nearest to a number, and which is even if another one is as near. -/
structure IsNearest (rank : Nat) (v : ℚ) : Prop where
  rank_le : rank ≤ infinityRank
  nearest : ∀ other ≤ infinityRank, |magnitude rank - v| ≤ |magnitude other - v|
  even_of_tie : ∀ other ≤ infinityRank, other ≠ rank →
    |magnitude other - v| = |magnitude rank - v| → rank % 2 = 0

/-! ## Rounded quotients -/

/-- A quotient is its whole part and a rest below one. -/
theorem div_eq_add_rest (numerator : Nat) {denominator : Nat} (h : 0 < denominator) :
    (numerator : ℚ) / denominator =
        (numerator / denominator : Nat) + (numerator % denominator : Nat) / denominator ∧
      0 ≤ ((numerator % denominator : Nat) : ℚ) / denominator ∧
      ((numerator % denominator : Nat) : ℚ) / denominator < 1 := by
  have hden : (0 : ℚ) < denominator := Nat.cast_pos.mpr h
  refine ⟨?_, by positivity, ?_⟩
  · conv_lhs => rw [← Nat.div_add_mod numerator denominator]
    rw [Nat.cast_add, Nat.cast_mul, add_div, mul_div_cancel_left₀ _ hden.ne']
  · rw [div_lt_one hden]
    exact_mod_cast Nat.mod_lt _ h

/-- Rounding moves a quotient by a half at most, and by exactly a half only to an even number. -/
theorem abs_roundHalfEven_sub_le (numerator : Nat) {denominator : Nat} (h : 0 < denominator) :
    |(roundHalfEven numerator denominator : ℚ) - numerator / denominator| ≤ 1 / 2 ∧
      (|(roundHalfEven numerator denominator : ℚ) - numerator / denominator| = 1 / 2 →
        roundHalfEven numerator denominator % 2 = 0) := by
  obtain ⟨hquotient, hpart, hless⟩ := div_eq_add_rest numerator h
  obtain ⟨q, hq⟩ : ∃ q, q = numerator / denominator := ⟨_, rfl⟩
  obtain ⟨r, hr⟩ : ∃ r, r = numerator % denominator := ⟨_, rfl⟩
  rw [← hq, ← hr] at hquotient
  rw [← hr] at hpart hless
  have hden : (0 : ℚ) < denominator := Nat.cast_pos.mpr h
  have htwice (hhalf : (r : ℚ) / denominator = 1 / 2) : 2 * r = denominator := by
    rw [div_eq_div_iff hden.ne' two_ne_zero, one_mul, mul_comm] at hhalf
    exact_mod_cast hhalf
  rw [hquotient]
  unfold roundHalfEven
  simp only [← hq, ← hr]
  split
  next hup =>
    have hhalf : 1 / 2 ≤ (r : ℚ) / denominator := by
      have hge : denominator ≤ 2 * r := by
        simp only [Bool.or_eq_true, decide_eq_true_eq, Bool.and_eq_true, beq_iff_eq] at hup
        omega
      rw [div_le_div_iff₀ two_pos hden]
      exact_mod_cast by omega
    have habs : |((q + 1 : Nat) : ℚ) - (q + r / denominator)| = 1 - r / denominator := by
      rw [abs_of_nonneg] <;> push_cast <;> linarith
    rw [habs]
    refine ⟨by linarith, fun htie ↦ ?_⟩
    have heq := htwice (by linarith)
    simp only [heq, Bool.or_eq_true, decide_eq_true_eq, Bool.and_eq_true, beq_iff_eq] at hup
    omega
  next hdown =>
    simp only [Bool.or_eq_true, decide_eq_true_eq, Bool.and_eq_true, beq_iff_eq] at hdown
    have hhalf : (r : ℚ) / denominator ≤ 1 / 2 := by
      rw [div_le_div_iff₀ hden two_pos]
      exact_mod_cast by omega
    have habs : |((q : Nat) : ℚ) - (q + r / denominator)| = r / denominator := by
      rw [abs_sub_comm, abs_of_nonneg] <;> linarith
    rw [habs]
    refine ⟨hhalf, fun htie ↦ ?_⟩
    have heq := htwice htie
    omega

/-- Whole numbers are at least one apart. -/
theorem one_sub_le_abs_sub {rounded other : Nat} (hne : other ≠ rounded) (x : ℚ) :
    1 - |(rounded : ℚ) - x| ≤ |(other : ℚ) - x| := by
  have hone : 1 ≤ |(other : ℚ) - rounded| := by
    have hne : (other : Int) - rounded ≠ 0 := by omega
    exact_mod_cast Int.one_le_abs hne
  have htriangle := abs_sub_le (other : ℚ) x rounded
  rw [abs_sub_comm x] at htriangle
  linarith

/-- No whole number is nearer than one that is a half away at most. -/
theorem abs_sub_le_of_half {rounded : Nat} {x : ℚ} (h : |(rounded : ℚ) - x| ≤ 1 / 2)
    (other : Nat) : |(rounded : ℚ) - x| ≤ |(other : ℚ) - x| := by
  by_cases hother : other = rounded
  · rw [hother]
  · have hapart := one_sub_le_abs_sub hother x
    linarith

/-- Only if it is a half away, another whole number can be as near. -/
theorem abs_sub_eq_half {rounded other : Nat} {x : ℚ} (h : |(rounded : ℚ) - x| ≤ 1 / 2)
    (hne : other ≠ rounded) (htie : |(other : ℚ) - x| = |(rounded : ℚ) - x|) :
    |(rounded : ℚ) - x| = 1 / 2 := by
  have hapart := one_sub_le_abs_sub hne x
  linarith

/-! ## Ranks -/

/-- A magnitude is a multiple of a power of two, or lies below those that have this scale. -/
theorem grains_multiple_or_lt (rank scale : Nat) :
    (∃ m, grains rank = m * 2 ^ scale) ∨ scale ≠ 0 ∧ grains rank < 2 ^ 52 * 2 ^ scale := by
  by_cases hscale : scale ≤ rank / 2 ^ 52 - 1
  · left
    obtain ⟨more, hmore⟩ := Nat.exists_eq_add_of_le hscale
    refine ⟨(rank - (scale + more) * 2 ^ 52) * 2 ^ more, ?_⟩
    simp only [grains, twoPow_eq_pow, hmore]
    rw [Nat.mul_assoc, ← Nat.pow_add, Nat.add_comm more]
  · right
    have hrank : rank < scale * 2 ^ 52 + 2 ^ 52 := by omega
    refine ⟨by omega, ?_⟩
    rw [← grains_of_scale (by decide) fun _ ↦ Nat.le_refl _]
    exact strictMono_grains hrank

section Scale

variable {scale significand other : Nat} {x : ℚ}

/-- In steps of the scale, distances are those of whole numbers. -/
theorem abs_grains_sub {rank m : Nat} (h : grains rank = m * 2 ^ scale) (x : ℚ) :
    |(grains rank : ℚ) - x * 2 ^ scale| = |(m : ℚ) - x| * 2 ^ scale := by
  have hpow : (0 : ℚ) < 2 ^ scale := by positivity
  rw [h, Nat.cast_mul, Nat.cast_pow, Nat.cast_ofNat, ← sub_mul, abs_mul, abs_of_pos hpow]

/-- What lies below the magnitudes of a scale is further away than a rounded number of them. -/
theorem abs_sub_lt_of_below (hhalf : |(significand : ℚ) - x| ≤ 1 / 2) (hx : 2 ^ 52 ≤ x)
    (hbelow : grains other < 2 ^ 52 * 2 ^ scale) :
    |(significand : ℚ) - x| * 2 ^ scale < |(grains other : ℚ) - x * 2 ^ scale| := by
  have hpow : (0 : ℚ) < 2 ^ scale := by positivity
  have hcast : ((2 ^ 52 : Nat) : ℚ) = 2 ^ 52 := Nat.cast_pow 2 52
  have hother : (grains other : ℚ) < 2 ^ 52 * 2 ^ scale := by exact_mod_cast hbelow
  have hfirst : 2 ^ 52 * 2 ^ scale ≤ x * 2 ^ scale := mul_le_mul_of_nonneg_right hx hpow.le
  calc |(significand : ℚ) - x| * 2 ^ scale
      ≤ |((2 ^ 52 : Nat) : ℚ) - x| * 2 ^ scale :=
        mul_le_mul_of_nonneg_right (abs_sub_le_of_half hhalf _) hpow.le
    _ = x * 2 ^ scale - 2 ^ 52 * 2 ^ scale := by
        rw [hcast, abs_sub_comm, abs_of_nonneg (sub_nonneg.mpr hx), sub_mul]
    _ < x * 2 ^ scale - grains other := sub_lt_sub_left hother _
    _ = |(grains other : ℚ) - x * 2 ^ scale| := by
        rw [abs_sub_comm, abs_of_pos (by linarith)]

end Scale

/-- No magnitude is nearer to a quotient of grains than its rounded significand at its scale. -/
theorem exists_nearest_grains (numerator : Nat) {denominator : Nat} (h : 0 < denominator) :
    ∃ rank, nearestRank numerator denominator = min rank infinityRank ∧
      (∀ other, |(grains rank : ℚ) - numerator / denominator| ≤
        |(grains other : ℚ) - numerator / denominator|) ∧
      ∀ other, other ≠ rank → |(grains other : ℚ) - numerator / denominator| =
        |(grains rank : ℚ) - numerator / denominator| → rank % 2 = 0 := by
  obtain ⟨scale, hscale⟩ : ∃ scale, scale = Nat.log2 (numerator / denominator) - 52 := ⟨_, rfl⟩
  obtain ⟨significand, hsignificand⟩ :
      ∃ significand, significand = roundHalfEven numerator (denominator * 2 ^ scale) := ⟨_, rfl⟩
  obtain ⟨x, hx⟩ : ∃ x : ℚ, x = numerator / (denominator * 2 ^ scale : Nat) := ⟨_, rfl⟩
  have hpow : (0 : ℚ) < 2 ^ scale := by positivity
  have hvalue : (numerator : ℚ) / denominator = x * 2 ^ scale := by
    rw [hx]
    push_cast
    field_simp
  obtain ⟨hhalf, heven⟩ :=
    abs_roundHalfEven_sub_le numerator (Nat.mul_pos h (Nat.two_pow_pos scale))
  rw [← hsignificand, ← hx] at hhalf heven
  have hgrains : grains (scale * 2 ^ 52 + significand) = significand * 2 ^ scale :=
    grains_of_scale (hsignificand ▸ significand_le_pow hscale)
      fun hne ↦ hsignificand ▸ pow_le_significand hscale (by omega)
  have hfirst (hne : scale ≠ 0) : 2 ^ 52 ≤ x := by
    have hle : (2 ^ 52 * 2 ^ scale : ℚ) ≤ numerator / denominator := by
      refine le_trans ?_ (Nat.cast_div_le (m := numerator) (n := denominator))
      exact_mod_cast pow_mul_scale_le hscale (by omega)
    rw [hvalue] at hle
    exact le_of_mul_le_mul_right hle hpow
  rw [hvalue]
  refine ⟨scale * 2 ^ 52 + significand, ?_, fun other ↦ ?_, fun other hne htie ↦ ?_⟩
  · simp only [nearestRank, ← hscale, twoPow_eq_pow, ← hsignificand]
  · rw [abs_grains_sub hgrains]
    rcases grains_multiple_or_lt other scale with ⟨m, hm⟩ | ⟨hscale, hbelow⟩
    · rw [abs_grains_sub hm]
      exact mul_le_mul_of_nonneg_right (abs_sub_le_of_half hhalf m) hpow.le
    · exact (abs_sub_lt_of_below hhalf (hfirst hscale) hbelow).le
  · rw [abs_grains_sub hgrains] at htie
    rcases grains_multiple_or_lt other scale with ⟨m, hm⟩ | ⟨hscale, hbelow⟩
    · have hother : m ≠ significand := by
        rintro rfl
        exact hne (strictMono_grains.injective (hm.trans hgrains.symm))
      rw [abs_grains_sub hm] at htie
      have hsignificand := heven
        (abs_sub_eq_half hhalf hother (mul_right_cancel₀ hpow.ne' htie))
      omega
    · exact absurd htie (abs_sub_lt_of_below hhalf (hfirst hscale) hbelow).ne'

/-! ## Nearest magnitudes -/

theorem grainsInOne_cast_pos : (0 : ℚ) < grainsInOne :=
  Nat.cast_pos.mpr grainsInOne_pos

theorem strictMono_magnitude : StrictMono magnitude :=
  fun _ _ h ↦ div_lt_div_of_pos_right (Nat.cast_lt.mpr (strictMono_grains h)) grainsInOne_cast_pos

theorem abs_magnitude_sub (rank : Nat) (w : ℚ) :
    |magnitude rank - w / grainsInOne| = |(grains rank : ℚ) - w| / grainsInOne := by
  rw [magnitude, ← sub_div, abs_div, abs_of_pos grainsInOne_cast_pos]

/-- Nearness can be decided by counting grains. -/
theorem isNearest_of_grains {rank : Nat} {w : ℚ} (hrank : rank ≤ infinityRank)
    (hnearest : ∀ other ≤ infinityRank, |(grains rank : ℚ) - w| ≤ |(grains other : ℚ) - w|)
    (heven : ∀ other ≤ infinityRank, other ≠ rank →
      |(grains other : ℚ) - w| = |(grains rank : ℚ) - w| → rank % 2 = 0) :
    IsNearest rank (w / grainsInOne) where
  rank_le := hrank
  nearest other hother := by
    rw [abs_magnitude_sub, abs_magnitude_sub]
    exact div_le_div_of_nonneg_right (hnearest other hother) grainsInOne_cast_pos.le
  even_of_tie other hother hne htie := by
    rw [abs_magnitude_sub, abs_magnitude_sub, div_left_inj' grainsInOne_cast_pos.ne'] at htie
    exact heven other hother hne htie

/-- Rounding finds the nearest magnitude. -/
theorem isNearest_nearestRank (numerator : Nat) {denominator : Nat} (h : 0 < denominator) :
    IsNearest (nearestRank numerator denominator) (numerator / denominator / grainsInOne) := by
  obtain ⟨rank, hmin, hnearest, heven⟩ := exists_nearest_grains numerator h
  rw [hmin]
  rcases Nat.lt_or_ge infinityRank rank with hlt | hle
  · -- What is nearest to a greater magnitude lies behind that of infinity.
    rw [Nat.min_eq_right hlt.le]
    have hgrains : (grains infinityRank : ℚ) < grains rank :=
      Nat.cast_lt.mpr (strictMono_grains hlt)
    have hbehind : (grains infinityRank : ℚ) ≤ numerator / denominator := by
      by_contra hbefore
      have hdistance := hnearest infinityRank
      rw [abs_of_pos (by linarith), abs_of_pos (by linarith)] at hdistance
      linarith
    have hle {other : Nat} (hother : other ≤ infinityRank) :
        (grains other : ℚ) ≤ grains infinityRank :=
      Nat.cast_le.mpr (strictMono_grains.monotone hother)
    have hdistance {other : Nat} (hother : other ≤ infinityRank) :
        |(grains other : ℚ) - numerator / denominator| = numerator / denominator - grains other := by
      rw [abs_sub_comm, abs_of_nonneg (sub_nonneg.mpr ((hle hother).trans hbehind))]
    refine isNearest_of_grains (Nat.le_refl _) (fun other hother ↦ ?_) fun _ hother hne htie ↦ ?_
    · rw [hdistance hother, hdistance (Nat.le_refl _)]
      exact sub_le_sub_left (hle hother) _
    · rw [hdistance hother, hdistance (Nat.le_refl _), sub_right_inj, Nat.cast_inj] at htie
      exact absurd (strictMono_grains.injective htie) hne
  · rw [Nat.min_eq_left hle]
    exact isNearest_of_grains hle (fun other _ ↦ hnearest other) fun other _ ↦ heven other

namespace IsNearest

variable {rank other : Nat} {v : ℚ}

/-- A nearest rank is not below another one. -/
theorem not_lt (h : IsNearest rank v) (hother : IsNearest other v) : ¬ rank < other := by
  intro hlt
  have htie : |magnitude other - v| = |magnitude rank - v| :=
    le_antisymm (hother.nearest rank h.rank_le) (h.nearest other hother.rank_le)
  have hgrows := strictMono_magnitude hlt
  have hbelow : magnitude rank < v ∧ v < magnitude other ∧
      magnitude other - v = v - magnitude rank := by
    rcases abs_eq_abs.mp htie with heq | heq
    · linarith
    · exact ⟨by linarith, by linarith, by linarith⟩
  obtain ⟨hrank, hv, hmiddle⟩ := hbelow
  rcases Nat.lt_or_ge (rank + 1) other with hnext | hnext
  · -- A rank in between would be nearer than both.
    have hafter := strictMono_magnitude (Nat.lt_succ_self rank)
    have hbefore := strictMono_magnitude hnext
    have hle := h.nearest (rank + 1) (Nat.le_trans hnext.le hother.rank_le)
    rw [abs_sub_comm, abs_of_pos (by linarith)] at hle
    rcases abs_cases (magnitude (rank + 1) - v) with ⟨habs, -⟩ | ⟨habs, -⟩ <;> linarith
  · have heven := h.even_of_tie other hother.rank_le (Nat.ne_of_gt hlt) htie
    have heven' := hother.even_of_tie rank h.rank_le (Nat.ne_of_lt hlt) htie.symm
    omega

/-- There is one nearest rank. -/
theorem unique (h : IsNearest rank v) (hother : IsNearest other v) : rank = other :=
  Nat.le_antisymm (Nat.not_lt.mp (hother.not_lt h)) (Nat.not_lt.mp (h.not_lt hother))

end IsNearest

/-! ## Finite magnitudes -/

/-- Halfway between the greatest finite magnitude and the power of two behind it. -/
def overflowBound : ℚ :=
  2 ^ 1024 - 2 ^ 970

theorem magnitude_of_scale {significand : Nat} (scale : Nat) (hle : significand ≤ 2 ^ 53)
    (hlow : 2 ^ 52 ≤ significand) :
    magnitude ((scale + 1074) * 2 ^ 52 + significand) = significand * 2 ^ scale := by
  have hgrains : grains ((scale + 1074) * 2 ^ 52 + significand) =
      significand * 2 ^ scale * grainsInOne := by
    rw [grains_of_scale hle fun _ ↦ hlow, pow_add_eq_mul_twoPow, grainsInOne, Nat.mul_assoc]
  rw [magnitude, hgrains, Nat.cast_mul, mul_div_cancel_right₀ _ grainsInOne_cast_pos.ne',
    Nat.cast_mul, Nat.cast_pow, Nat.cast_ofNat]

/-- The greatest finite magnitude and the one behind it are equally far from the bound. -/
theorem exists_half_step : ∃ half : ℚ, 0 < half ∧
    magnitude infinityRank = overflowBound + half ∧
    magnitude (infinityRank - 1) = overflowBound - half := by
  have hinfinity : infinityRank = (972 + 1074) * 2 ^ 52 + 2 ^ 52 := rfl
  have hgreatest : infinityRank - 1 = (971 + 1074) * 2 ^ 52 + (2 ^ 53 - 1) := rfl
  have hcast : ((2 ^ 52 : Nat) : ℚ) = 2 ^ 52 ∧ ((2 ^ 53 - 1 : Nat) : ℚ) = 2 ^ 53 - 1 := by
    norm_num
  have hdouble : (2 : ℚ) ^ 971 = 2 ^ 970 + 2 ^ 970 := by rw [pow_succ, mul_two]
  refine ⟨2 ^ 970, pow_pos two_pos _, ?_, ?_⟩
  · rw [hinfinity, magnitude_of_scale 972 (by decide) (Nat.le_refl _), hcast.1, ← pow_add,
      overflowBound, sub_add_cancel]
  · rw [hgreatest, magnitude_of_scale 971 (by decide) (by decide), hcast.2, sub_mul, ← pow_add,
      one_mul, hdouble, overflowBound, sub_sub]

/-- A number is rounded to a finite magnitude exactly if it lies before the halfway bound. -/
theorem IsNearest.lt_infinityRank_iff {rank : Nat} {v : ℚ} (h : IsNearest rank v) :
    rank < infinityRank ↔ v < overflowBound := by
  obtain ⟨half, hpos, hinfinity, hgreatest⟩ := exists_half_step
  constructor
  · intro hfinite
    by_contra hbound
    have hle : magnitude rank ≤ magnitude (infinityRank - 1) :=
      strictMono_magnitude.monotone (Nat.le_sub_one_of_lt hfinite)
    have hnearest := h.nearest infinityRank (Nat.le_refl _)
    rw [abs_sub_comm, abs_of_pos (by linarith)] at hnearest
    -- Only halfway, and from the greatest finite magnitude, this is not further than infinity.
    rcases abs_cases (magnitude infinityRank - v) with ⟨habs, -⟩ | ⟨habs, -⟩
    · have hgreatest_eq : magnitude rank = magnitude (infinityRank - 1) := by linarith
      have hrank := strictMono_magnitude.injective hgreatest_eq
      have htie : |magnitude infinityRank - v| = |magnitude rank - v| := by
        rw [habs, abs_sub_comm, abs_of_pos (by linarith)]
        linarith
      have heven := h.even_of_tie infinityRank (Nat.le_refl _) (Nat.ne_of_gt hfinite) htie
      have hodd : infinityRank = 2047 * 2 ^ 52 := rfl
      omega
    · linarith
  · intro hbound
    by_contra hinfinite
    have hrank : rank = infinityRank := Nat.le_antisymm h.rank_le (Nat.not_lt.mp hinfinite)
    have hnearest := h.nearest (infinityRank - 1) (Nat.sub_le _ _)
    rw [hrank, abs_of_pos (by linarith)] at hnearest
    rcases abs_cases (magnitude (infinityRank - 1) - v) with ⟨habs, -⟩ | ⟨habs, -⟩ <;> linarith

/-! ## Numbers -/

/-- The number with a sign and the magnitude that is nearest to `v`. -/
def IsRounded (x : Binary64) (negative : Bool) (v : ℚ) : Prop :=
  ∃ rank hrank, x = .signed negative rank hrank ∧ IsNearest rank v

theorem IsRounded.isFinite_iff {x : Binary64} {negative : Bool} {v : ℚ}
    (h : x.IsRounded negative v) : x.isFinite = true ↔ v < overflowBound := by
  obtain ⟨rank, hrank, rfl, hnearest⟩ := h
  rw [isFinite, decide_eq_true_eq, hnearest.lt_infinityRank_iff]

/-- There is one number that a number is rounded to. -/
theorem IsRounded.unique {x y : Binary64} {negative : Bool} {v : ℚ} (hx : x.IsRounded negative v)
    (hy : y.IsRounded negative v) : x = y := by
  obtain ⟨rank, hrank, rfl, hnearest⟩ := hx
  obtain ⟨other, hother, rfl, hnearest'⟩ := hy
  obtain rfl := hnearest.unique hnearest'
  rfl

theorem IsRounded.eq_iff {x y : Binary64} {negative : Bool} {v : ℚ} (hx : x.IsRounded negative v) :
    x = y ↔ y.IsRounded negative v :=
  ⟨fun h ↦ h ▸ hx, hx.unique⟩

theorem isRounded_ofNat (n : Nat) : (ofNat n).IsRounded false n := by
  refine ⟨_, _, ofNat_eq n, ?_⟩
  have h := isNearest_nearestRank (n * grainsInOne) Nat.one_pos
  rwa [Nat.cast_mul, Nat.cast_one, div_one, mul_div_cancel_right₀ _ grainsInOne_cast_pos.ne'] at h

end FieldTags.Binary64

namespace FieldTags.Decimal

def toRat (d : Decimal) : ℚ :=
  d.coefficient * 10 ^ d.exponent

theorem isNearest_nearestRank (d : Decimal) : Binary64.IsNearest d.nearestRank d.toRat := by
  have hunit := Binary64.grainsInOne_cast_pos.ne'
  obtain ⟨coefficient, exponent⟩ := d
  rcases lt_or_ge exponent 0 with hexponent | hexponent
  · obtain ⟨places, rfl⟩ := Int.exists_eq_neg_ofNat hexponent.le
    have hvalue : toRat ⟨coefficient, -places⟩ =
        (coefficient * Binary64.grainsInOne : Nat) / (10 ^ places : Nat) /
          Binary64.grainsInOne := by
      rw [toRat, zpow_neg, zpow_natCast]
      push_cast
      field_simp
    rw [hvalue, nearestRank, if_neg (Int.not_le.mpr hexponent), Int.neg_neg, Int.toNat_natCast,
      tenPow_eq_pow]
    exact Binary64.isNearest_nearestRank _ (Nat.pow_pos (by decide))
  · obtain ⟨zeros, rfl⟩ := Int.eq_ofNat_of_zero_le hexponent
    have hvalue : toRat ⟨coefficient, zeros⟩ =
        (coefficient * Binary64.grainsInOne * 10 ^ zeros : Nat) / (1 : Nat) /
          Binary64.grainsInOne := by
      rw [toRat, zpow_natCast]
      push_cast
      field_simp
    rw [hvalue, nearestRank, if_pos hexponent, Int.toNat_natCast, tenPow_eq_pow]
    exact Binary64.isNearest_nearestRank _ Nat.one_pos

/-- Reading a decimal fraction rounds it. -/
theorem isRounded_toBinary64 (negative : Bool) (d : Decimal) :
    (d.toBinary64 negative).IsRounded negative d.toRat :=
  ⟨_, _, toBinary64_eq negative d, d.isNearest_nearestRank⟩

end FieldTags.Decimal
