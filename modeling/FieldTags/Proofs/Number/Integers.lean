import FieldTags.Json.Basic
import FieldTags.Proofs.Number.Rounding

/-!
# Whole numbers among the binary numbers

The value of a number is counted in grains. An integer that is the value of a binary number is the
value of its nearest one. Integers up to `2 ^ 53` are all of this kind; a longer integer need not
be, and then rounding changes it, but within 64 bits it always leads to a finite number. The integer
that a binary number is equal to leads back to this number, except that zero loses its sign.
-/

namespace FieldTags

namespace Binary64

/-- The value of a finite number in grains. -/
def grainValue : Binary64 → Int
  | .nan => 0
  | .signed negative rank _ => signedGrains negative rank

theorem natAbs_grainValue_signed (negative : Bool) {rank : Nat} (hrank : rank ≤ infinityRank) :
    (signed negative rank hrank).grainValue.natAbs = grains rank := by
  rw [grainValue, signedGrains]
  cases negative with
  | false => rw [if_neg Bool.false_ne_true, Int.natAbs_natCast]
  | true => rw [if_pos rfl, Int.natAbs_neg, Int.natAbs_natCast]

theorem grains_eq_of_grainValue {negative : Bool} {rank : Nat} {hrank : rank ≤ infinityRank}
    {n : Int} (h : (signed negative rank hrank).grainValue = n * grainsInOne) :
    grains rank = n.natAbs * grainsInOne := by
  rw [← natAbs_grainValue_signed negative hrank, h, Int.natAbs_mul, Int.natAbs_natCast]

theorem grains_zero : grains 0 = 0 := rfl

theorem eq_zero_of_mul_grainsInOne {m : Nat} (h : m * grainsInOne = 0) : m = 0 :=
  (Nat.mul_eq_zero.mp h).resolve_right (Nat.ne_of_gt grainsInOne_pos)

theorem grains_eq_zero_iff {rank : Nat} (hrank : rank ≤ infinityRank) :
    grains rank = 0 ↔ rank = 0 := by
  constructor
  · intro h
    rw [← nearestRank_grains hrank, h]
    exact nearestRank_eq_zero (by decide)
  · rintro rfl
    exact grains_zero

theorem isNaN_of_isFinite {x : Binary64} (hfinite : x.isFinite = true) : x.isNaN = false := by
  cases x with
  | nan => cases hfinite
  | signed negative rank hrank => rfl

theorem isZero_iff_grainValue {x : Binary64} (hfinite : x.isFinite = true) :
    x.isZero = true ↔ x.grainValue = 0 := by
  cases x with
  | nan => cases hfinite
  | signed negative rank hrank =>
    rw [← Int.natAbs_eq_zero, natAbs_grainValue_signed, grains_eq_zero_iff hrank, isZero, beq_iff_eq]

theorem isFinite_ofInt {n : Int} {bits : Nat} (hbits : bits ≤ 1022) (h : n.natAbs < 2 ^ bits) :
    (ofInt n).isFinite = true := by
  have hbound : bits + 1074 ≤ 2096 := by omega
  have hquotient : n.natAbs * grainsInOne / 1 < 2 ^ (bits + 1074) := by
    have hpow : 2 ^ (bits + 1074) = 2 ^ bits * grainsInOne := pow_add_eq_mul_twoPow bits 1074
    rw [Nat.div_one, hpow]
    exact Nat.mul_lt_mul_of_pos_right h grainsInOne_pos
  have hrank : nearestRank (n.natAbs * grainsInOne) 1 < infinityRank :=
    nearestRank_lt_infinityRank hbound hquotient
  rw [ofInt, ofGrains, isFinite]
  exact decide_eq_true hrank

theorem isFinite_ofNat {n bits : Nat} (hbits : bits ≤ 1022) (h : n < 2 ^ bits) :
    (ofNat n).isFinite = true :=
  isFinite_ofInt hbits h

/-! ## From a binary number to an integer -/

/-- An integer is rounded to a magnitude that it is equal to. -/
theorem ofInt_eq_of_grains {n : Int} {rank : Nat} (hrank : rank ≤ infinityRank)
    (h : grains rank = n.natAbs * grainsInOne) : ofInt n = .signed (n < 0) rank hrank := by
  have hnearest : nearestRank (n.natAbs * grainsInOne) 1 = rank := by
    rw [← h, nearestRank_grains hrank]
  rw [ofInt, ofGrains]
  congr 1

theorem toInt?_signed {negative : Bool} {rank : Nat} {hrank : rank ≤ infinityRank} {n : Int}
    (h : (signed negative rank hrank).toInt? = some n) :
    ∃ magnitude : Nat, grains rank = magnitude * grainsInOne ∧
      n = if negative then -(magnitude : Int) else magnitude := by
  rw [toInt?] at h
  by_cases hwhole : (rank < infinityRank && grains rank % grainsInOne == 0) = true
  · rw [if_pos hwhole] at h
    rw [Bool.and_eq_true, beq_iff_eq] at hwhole
    exact ⟨grains rank / grainsInOne,
      (Nat.div_mul_cancel (Nat.dvd_of_mod_eq_zero hwhole.2)).symm, (Option.some.inj h).symm⟩
  · rw [if_neg hwhole] at h
    cases h

/-- The integer that a number is equal to has its value. -/
theorem grainValue_of_toInt? {x : Binary64} {n : Int} (h : x.toInt? = some n) :
    x.grainValue = n * grainsInOne := by
  cases x with
  | nan => cases h
  | signed negative rank hrank =>
    obtain ⟨magnitude, hgrains, rfl⟩ := toInt?_signed h
    rw [grainValue, signedGrains, hgrains, Int.natCast_mul]
    cases negative with
    | false => rw [if_neg Bool.false_ne_true, if_neg Bool.false_ne_true]
    | true => rw [if_pos rfl, if_pos rfl, Int.neg_mul]

/-- The integer that a number is equal to leads back to the number, except that it has only the
positive zero. -/
theorem ofInt_of_toInt? {x : Binary64} {n : Int} (h : x.toInt? = some n) :
    ofInt n = if x.isZero then zeroOfSign false else x := by
  cases x with
  | nan => cases h
  | signed negative rank hrank =>
    obtain ⟨magnitude, hgrains, rfl⟩ := toInt?_signed h
    have habs : (if negative then -(magnitude : Int) else magnitude).natAbs = magnitude := by
      cases negative <;> simp
    rw [ofInt_eq_of_grains hrank (by rw [habs, hgrains])]
    by_cases hzero : rank = 0
    · subst hzero
      have hmagnitude : magnitude = 0 := by
        rw [grains_zero] at hgrains
        exact eq_zero_of_mul_grainsInOne hgrains.symm
      subst hmagnitude
      cases negative <;> rfl
    · have hmagnitude : magnitude ≠ 0 := by
        rintro rfl
        rw [Nat.zero_mul] at hgrains
        exact hzero ((grains_eq_zero_iff hrank).mp hgrains)
      have hisZero : (signed negative rank hrank).isZero = false := beq_false_of_ne hzero
      rw [hisZero, if_neg Bool.false_ne_true]
      cases negative with
      | false => simp
      | true =>
        have hneg : -(magnitude : Int) < 0 := by omega
        rw [if_pos rfl, decide_eq_true hneg]

/-! ## From an integer to a binary number -/

/-- An integer that is the value of a magnitude is the value of its nearest number. -/
theorem grainValue_ofInt_of_grains {n : Int} {rank : Nat} (hrank : rank ≤ infinityRank)
    (h : grains rank = n.natAbs * grainsInOne) : (ofInt n).grainValue = n * grainsInOne := by
  rw [ofInt_eq_of_grains hrank h, grainValue, signedGrains, h, Int.natCast_mul]
  by_cases hn : n < 0
  · rw [decide_eq_true hn, if_pos rfl, Int.ofNat_natAbs_of_nonpos (Int.le_of_lt hn), Int.neg_mul,
      Int.neg_neg]
  · rw [decide_eq_false hn, if_neg Bool.false_ne_true,
      Int.natAbs_of_nonneg (Int.not_lt.mp hn)]

/-- An integer that is the value of a binary number is the value of its nearest number. -/
theorem grainValue_ofInt_of_eq {n : Int} {x : Binary64} (hfinite : x.isFinite = true)
    (h : x.grainValue = n * grainsInOne) : (ofInt n).grainValue = n * grainsInOne := by
  cases x with
  | nan => cases hfinite
  | signed negative rank hrank =>
    exact grainValue_ofInt_of_grains hrank (grains_eq_of_grainValue h)

/-- A magnitude of 53 significant bits is there, if it is neither too small nor too great. -/
theorem exists_grains_eq {significand exponent : Nat} (hpos : significand ≠ 0)
    (hlt : significand < 2 ^ 53) (hlow : 52 ≤ exponent) (hhigh : exponent ≤ 2045) :
    ∃ rank ≤ infinityRank, grains rank = significand * 2 ^ exponent := by
  obtain ⟨shift, hshift⟩ : ∃ shift, shift = 52 - Nat.log2 significand := ⟨_, rfl⟩
  have hlog : Nat.log2 significand < 53 := (Nat.log2_lt hpos).mpr hlt
  -- Shifting the first bit to its place leaves the rest of the exponent for the scale.
  have hfirst : 2 ^ 52 ≤ significand * 2 ^ shift := by
    have hself := Nat.mul_le_mul_right (2 ^ shift) (Nat.log2_self_le hpos)
    rw [← Nat.pow_add] at hself
    have hexponent : Nat.log2 significand + shift = 52 := by omega
    rwa [hexponent] at hself
  have hbits : significand * 2 ^ shift < 2 ^ 53 := by
    have hself := Nat.mul_lt_mul_of_pos_right (Nat.lt_log2_self (n := significand))
      (Nat.two_pow_pos shift)
    rw [← Nat.pow_add] at hself
    have hexponent : Nat.log2 significand + 1 + shift = 53 := by omega
    rwa [hexponent] at hself
  obtain ⟨scale, hscale⟩ : ∃ scale, scale = exponent - shift := ⟨_, rfl⟩
  have hinfinity : infinityRank = 2047 * 2 ^ 52 := rfl
  refine ⟨scale * 2 ^ 52 + significand * 2 ^ shift, by omega, ?_⟩
  have hexponent : shift + scale = exponent := by omega
  rw [grains_of_scale hbits.le fun _ ↦ hfirst, Nat.mul_assoc, ← Nat.pow_add, hexponent]

/-- Whole numbers up to `2 ^ 53` are magnitudes. -/
theorem exists_grains_eq_mul {m : Nat} (h : m ≤ 2 ^ 53) :
    ∃ rank ≤ infinityRank, grains rank = m * grainsInOne := by
  by_cases hzero : m = 0
  · exact ⟨0, Nat.zero_le _, by rw [grains_zero, hzero, Nat.zero_mul]⟩
  · rcases Nat.lt_or_eq_of_le h with hlt | rfl
    · obtain ⟨rank, hrank, hgrains⟩ : ∃ rank ≤ infinityRank, grains rank = m * 2 ^ 1074 :=
        exists_grains_eq hzero hlt (by decide) (by decide)
      exact ⟨rank, hrank, by rw [hgrains, grainsInOne, twoPow_eq_pow]⟩
    · obtain ⟨rank, hrank, hgrains⟩ : ∃ rank ≤ infinityRank, grains rank = 1 * 2 ^ (53 + 1074) :=
        exists_grains_eq Nat.one_ne_zero (by decide) (by decide) (by decide)
      exact ⟨rank, hrank, by rw [hgrains, Nat.one_mul, pow_add_eq_mul_twoPow, grainsInOne]⟩

/-- Integers up to `2 ^ 53` are the values of their nearest numbers. -/
theorem grainValue_ofInt_of_le {n : Int} (h : n.natAbs ≤ 2 ^ 53) :
    (ofInt n).grainValue = n * grainsInOne := by
  obtain ⟨rank, hrank, hgrains⟩ := exists_grains_eq_mul h
  exact grainValue_ofInt_of_grains hrank hgrains

theorem grains_nearestRank_of_le {m : Nat} (h : m ≤ 2 ^ 53) :
    grains (nearestRank (m * grainsInOne) 1) = m * grainsInOne := by
  obtain ⟨rank, hrank, hgrains⟩ := exists_grains_eq_mul h
  rw [← hgrains, nearestRank_grains hrank]

/-! ## From `2 ^ 53` on -/

theorem mul_grainsInOne_eq_pow : 2 ^ 53 * grainsInOne = 2 ^ (1075 + 52) := by
  have hexponent : 1075 + 52 = 53 + 1074 := rfl
  rw [hexponent, pow_add_eq_mul_twoPow, grainsInOne]

/-- What is not below `2 ^ 53` is not rounded to less. -/
theorem le_grains_nearestRank {numerator denominator : Nat}
    (h : 2 ^ 53 * grainsInOne ≤ numerator / denominator) :
    2 ^ 53 * grainsInOne ≤ grains (nearestRank numerator denominator) := by
  have hinfinity : infinityRank = 2047 * 2 ^ 52 := rfl
  rw [mul_grainsInOne_eq_pow] at h ⊢
  have hrank := le_nearestRank h
  exact le_grains (by omega)

/-- A magnitude below `2 ^ 53` is finite. -/
theorem lt_infinityRank_of_grains_lt {rank : Nat} (hle : rank ≤ infinityRank)
    (h : grains rank < 2 ^ 53 * grainsInOne) : rank < infinityRank := by
  have hinfinity : infinityRank = 2047 * 2 ^ 52 := rfl
  refine Nat.lt_of_le_of_ne hle fun heq ↦ ?_
  have hgrains : 2 ^ (1075 + 52) ≤ grains rank := le_grains (by omega)
  rw [mul_grainsInOne_eq_pow] at h
  exact absurd h (Nat.not_lt.mpr hgrains)

/-- Only a whole number below `2 ^ 53` itself is rounded to its magnitude. -/
theorem eq_of_nearestRank_eq {m other : Nat} (hm : m < 2 ^ 53)
    (h : nearestRank (other * grainsInOne) 1 = nearestRank (m * grainsInOne) 1) : other = m := by
  have hgrains := congrArg grains h
  rw [grains_nearestRank_of_le (Nat.le_of_lt hm)] at hgrains
  have hother : other < 2 ^ 53 := by
    by_contra hlarge
    have hle : 2 ^ 53 * grainsInOne ≤ other * grainsInOne / 1 := by
      rw [Nat.div_one]
      exact Nat.mul_le_mul_right _ (Nat.not_lt.mp hlarge)
    have hrounded := le_grains_nearestRank hle
    rw [hgrains] at hrounded
    exact hlarge.elim (absurd (Nat.le_of_mul_le_mul_right hrounded grainsInOne_pos)
      (Nat.not_le.mpr hm))
  rw [grains_nearestRank_of_le (Nat.le_of_lt hother)] at hgrains
  exact Nat.mul_right_cancel grainsInOne_pos hgrains

/-! ## Multiples and integral parts -/

/-- The sign of a whole number is the sign of its value. -/
theorem eq_of_grainValue_signed {negative : Bool} {rank m : Nat} {hrank : rank ≤ infinityRank}
    {n : Int} (hgrains : grains rank = m * grainsInOne)
    (h : (signed negative rank hrank).grainValue = n * grainsInOne) :
    n = if negative then -(m : Int) else m := by
  have hunit : (grainsInOne : Int) ≠ 0 := Int.natCast_ne_zero.mpr (Nat.ne_of_gt grainsInOne_pos)
  rw [grainValue, signedGrains, hgrains, Int.natCast_mul] at h
  cases negative with
  | false =>
    rw [if_neg Bool.false_ne_true] at h ⊢
    exact (Int.eq_of_mul_eq_mul_right hunit h).symm
  | true =>
    rw [if_pos rfl, ← Int.neg_mul] at h
    rw [if_pos rfl]
    exact (Int.eq_of_mul_eq_mul_right hunit h).symm

/-- The integral part of a whole number is the number. -/
theorem clampToInt_of_whole {x : Binary64} {n low high : Int} (hfinite : x.isFinite = true)
    (h : x.grainValue = n * grainsInOne) (hlow : low ≤ n) (hhigh : n ≤ high) :
    x.clampToInt low high = n := by
  cases x with
  | nan => cases hfinite
  | signed negative rank hrank =>
    have hgrains := grains_eq_of_grainValue h
    have hn := eq_of_grainValue_signed hgrains h
    have hquotient : (grains rank : Int) / grainsInOne = n.natAbs := by
      rw [← Int.natCast_ediv, hgrains, Nat.mul_div_cancel _ grainsInOne_pos]
    rw [clampToInt, if_neg (Nat.ne_of_lt (of_decide_eq_true hfinite))]
    simp only [hquotient, ← hn]
    omega

/-- The integral part of a number from `2 ^ 53` on is not less than that. -/
theorem le_clampToInt {x : Binary64} {low high : Int} (hlow : low ≤ -2 ^ 53) (hhigh : 2 ^ 53 ≤ high)
    (h : 2 ^ 53 * grainsInOne ≤ x.grainValue.natAbs) :
    2 ^ 53 ≤ x.clampToInt low high ∨ x.clampToInt low high ≤ -2 ^ 53 := by
  cases x with
  | nan =>
    have hpos := grainsInOne_pos
    rw [grainValue, Int.natAbs_zero] at h
    omega
  | signed negative rank hrank =>
    rw [natAbs_grainValue_signed, ← Nat.le_div_iff_mul_le grainsInOne_pos] at h
    rw [clampToInt]
    cases negative with
    | false =>
      simp only [Bool.false_eq_true, if_false]
      split_ifs <;> omega
    | true =>
      simp only [if_true]
      split_ifs <;> omega

/-- The product with a whole number is rounded once. -/
theorem mul_ofNat {negative : Bool} {rank k : Nat} {hrank : rank ≤ infinityRank}
    (hfinite : rank < infinityRank) (hk : k < 2 ^ 53) :
    (signed negative rank hrank).mul (ofNat k) = ofGrains negative (grains rank * k) 1 := by
  have hgrains := grains_nearestRank_of_le (Nat.le_of_lt hk)
  have hfactor : nearestRank (k * grainsInOne) 1 < infinityRank := by
    refine lt_infinityRank_of_grains_lt (nearestRank_le _ _) ?_
    rw [hgrains]
    exact Nat.mul_lt_mul_of_pos_right hk grainsInOne_pos
  have hnearest : nearestRank (grains rank * (k * grainsInOne)) grainsInOne =
      nearestRank (grains rank * k) 1 := by
    rw [← Nat.mul_assoc, Nat.mul_comm, ← nearestRank_mul_left grainsInOne_pos (grains rank * k) 1,
      Nat.mul_one]
  have hsign : decide ((k : Int) < 0) = false := decide_eq_false (by omega)
  have hinfinite :
      ¬ (rank = infinityRank || nearestRank (k * grainsInOne) 1 = infinityRank) = true := by
    simp only [Bool.or_eq_true, decide_eq_true_eq]
    omega
  rw [ofNat, ofInt, ofGrains, mul, Int.natAbs_natCast, if_neg hinfinite, hgrains, hsign,
    Bool.bne_false, ofGrains, ofGrains]
  simp only [hnearest]

/-- A multiple of a whole number is exact below `2 ^ 53`. -/
theorem mul_ofNat_of_whole {x : Binary64} {n : Int} {k : Nat} (hfinite : x.isFinite = true)
    (h : x.grainValue = n * grainsInOne) (hk : k < 2 ^ 53) (hlt : n.natAbs * k < 2 ^ 53) :
    (x.mul (ofNat k)).isFinite = true ∧ (x.mul (ofNat k)).grainValue = n * k * grainsInOne := by
  cases x with
  | nan => cases hfinite
  | signed negative rank hrank =>
    have hgrains := grains_eq_of_grainValue h
    have hn := eq_of_grainValue_signed hgrains h
    have hproduct : grains (nearestRank (grains rank * k) 1) = n.natAbs * k * grainsInOne := by
      rw [hgrains, Nat.mul_right_comm, grains_nearestRank_of_le (Nat.le_of_lt hlt)]
    rw [mul_ofNat (of_decide_eq_true hfinite) hk, ofGrains]
    constructor
    · refine decide_eq_true (lt_infinityRank_of_grains_lt (nearestRank_le _ _) ?_)
      rw [hproduct]
      exact Nat.mul_lt_mul_of_pos_right hlt grainsInOne_pos
    · rw [grainValue, signedGrains, hproduct]
      rw [Int.natCast_mul, Int.natCast_mul]
      cases negative with
      | false =>
        rw [if_neg Bool.false_ne_true] at hn ⊢
        rw [← hn]
      | true =>
        rw [if_pos rfl] at hn ⊢
        rw [← Int.neg_mul, ← Int.neg_mul, ← hn]

/-- A multiple of a number from `2 ^ 53` on is not below that. -/
theorem le_grainValue_mul_ofNat {x : Binary64} {k : Nat} (hfinite : x.isFinite = true)
    (hpos : 0 < k) (hk : k < 2 ^ 53) (h : 2 ^ 53 * grainsInOne ≤ x.grainValue.natAbs) :
    2 ^ 53 * grainsInOne ≤ (x.mul (ofNat k)).grainValue.natAbs := by
  cases x with
  | nan => cases hfinite
  | signed negative rank hrank =>
    rw [natAbs_grainValue_signed] at h
    rw [mul_ofNat (of_decide_eq_true hfinite) hk, ofGrains, natAbs_grainValue_signed]
    refine le_grains_nearestRank ?_
    rw [Nat.div_one]
    exact Nat.le_trans h (Nat.le_mul_of_pos_right _ hpos)

end Binary64

namespace JsonNumber

/-- The value of a JSON number in grains. -/
def grainValue : JsonNumber → Int
  | .integer n _ => n * Binary64.grainsInOne
  | .float x _ => x.grainValue

theorem isFinite_toBinary64 (n : JsonNumber) : n.toBinary64.isFinite = true := by
  cases n with
  | integer n inRange =>
    have hbits : n.natAbs < 2 ^ 64 := by
      simp only [minInt64, maxUInt64] at inRange
      omega
    exact Binary64.isFinite_ofInt (by decide) hbits
  | float x finite => exact finite

/-- The value of a JSON integer is the integer. -/
theorem eq_of_grainValue_integer {m n : Int} {inRange : minInt64 ≤ m ∧ m ≤ maxUInt64}
    (h : (integer m inRange).grainValue = n * Binary64.grainsInOne) : m = n :=
  Int.eq_of_mul_eq_mul_right (Int.natCast_ne_zero.mpr (Nat.ne_of_gt Binary64.grainsInOne_pos)) h

/-- The nearest binary number has the value of a whole number up to `2 ^ 53`. -/
theorem grainValue_toBinary64_of_le {x : JsonNumber} {n : Int}
    (h : x.grainValue = n * Binary64.grainsInOne) (hn : n.natAbs ≤ 2 ^ 53) :
    x.toBinary64.grainValue = n * Binary64.grainsInOne := by
  cases x with
  | integer m inRange =>
    obtain rfl := eq_of_grainValue_integer h
    exact Binary64.grainValue_ofInt_of_le hn
  | float x finite => exact h

/-- The nearest binary number of a longer whole number is not below `2 ^ 53` either. -/
theorem le_grainValue_toBinary64 {x : JsonNumber} {n : Int}
    (h : x.grainValue = n * Binary64.grainsInOne) (hn : 2 ^ 53 ≤ n.natAbs) :
    2 ^ 53 * Binary64.grainsInOne ≤ x.toBinary64.grainValue.natAbs := by
  have hmagnitude : 2 ^ 53 * Binary64.grainsInOne ≤ n.natAbs * Binary64.grainsInOne :=
    Nat.mul_le_mul_right _ hn
  cases x with
  | integer m inRange =>
    obtain rfl := eq_of_grainValue_integer h
    rw [toBinary64, Binary64.ofInt, Binary64.ofGrains, Binary64.natAbs_grainValue_signed]
    exact Binary64.le_grains_nearestRank (by rwa [Nat.div_one])
  | float x finite =>
    rw [grainValue] at h
    rwa [toBinary64, h, Int.natAbs_mul, Int.natAbs_natCast]

/-- A whole number is zero exactly if its nearest binary number is. -/
theorem isZero_toBinary64_iff {x : JsonNumber} {n : Int}
    (h : x.grainValue = n * Binary64.grainsInOne) : x.toBinary64.isZero = true ↔ n = 0 := by
  have hpos := Binary64.grainsInOne_pos
  rw [Binary64.isZero_iff_grainValue x.isFinite_toBinary64]
  by_cases hlong : 2 ^ 53 ≤ n.natAbs
  · have hle := x.le_grainValue_toBinary64 h hlong
    exact iff_of_false (by omega) (by omega)
  · rw [x.grainValue_toBinary64_of_le h (Nat.le_of_not_le hlong), Int.mul_eq_zero]
    omega

end JsonNumber

namespace Json

/-- A finite number becomes the integer that it is equal to, or it stays what it is. -/
theorem ofCalculation_cases {x : Binary64} (h : x.isFinite = true) :
    (∃ n inRange, x.toInt? = some n ∧ ofCalculation x = .number (.integer n inRange)) ∨
      ofCalculation x = .number (.float x h) := by
  have hkept : ofBinary64 x = .number (.float x h) := ofBinary64_of_isFinite h
  unfold ofCalculation
  cases hwhole : x.toInt? with
  | none => exact .inr hkept
  | some n =>
    dsimp only
    split_ifs with hsmall
    · have hpow : twoPow 53 = 9007199254740992 := rfl
      have inRange : minInt64 ≤ n ∧ n ≤ maxUInt64 := by
        simp only [minInt64, maxUInt64]
        omega
      refine .inl ⟨n, inRange, rfl, ?_⟩
      rw [ofInt, JsonNumber.ofInt?, dif_pos inRange]
    · exact .inr hkept

end Json

end FieldTags
