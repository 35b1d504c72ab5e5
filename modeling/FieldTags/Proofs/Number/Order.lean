import FieldTags.Proofs.Number.Integers
import Mathlib.Order.Monotone.Basic

/-!
# The order of whole numbers

The magnitudes grow with their ranks. So natural numbers below `2 ^ 53` compare with all natural
numbers as their nearest binary numbers do, also with those that are rounded. A difference of natural
numbers up to `2 ^ 53` that is not negative is exact.
-/

namespace FieldTags.Binary64

/-! ## Ranks and magnitudes -/

theorem grains_lt_grains_succ (rank : Nat) : grains rank < grains (rank + 1) := by
  obtain ⟨scale, hscale⟩ : ∃ scale, scale = rank / 2 ^ 52 - 1 := ⟨_, rfl⟩
  have hpos : 0 < 2 ^ scale := Nat.two_pow_pos scale
  simp only [grains, twoPow_eq_pow, ← hscale]
  by_cases hsame : (rank + 1) / 2 ^ 52 - 1 = scale
  · rw [hsame]
    exact Nat.mul_lt_mul_of_pos_right (by omega) hpos
  · -- The next magnitude is the first that counts steps of twice the size.
    have hnext : (rank + 1) / 2 ^ 52 - 1 = scale + 1 := by omega
    have hfirst : rank + 1 = (scale + 2) * 2 ^ 52 := by omega
    rw [hnext, hfirst]
    calc (rank - scale * 2 ^ 52) * 2 ^ scale
        < 2 ^ 53 * 2 ^ scale := Nat.mul_lt_mul_of_pos_right (by omega) hpos
      _ = 2 ^ 52 * 2 ^ (scale + 1) := by
        rw [Nat.pow_succ 2 52, Nat.pow_succ 2 scale, Nat.mul_assoc, Nat.mul_comm 2]
      _ = ((scale + 2) * 2 ^ 52 - (scale + 1) * 2 ^ 52) * 2 ^ (scale + 1) := by
        congr 1
        omega

theorem strictMono_grains : StrictMono grains :=
  strictMono_nat_of_lt_succ grains_lt_grains_succ

/-! ## Natural numbers -/

theorem ofNat_eq (n : Nat) :
    ofNat n = .signed false (nearestRank (n * grainsInOne) 1) (nearestRank_le _ _) := by
  have hsign : decide ((n : Int) < 0) = false := decide_eq_false (by omega)
  rw [ofNat, ofInt, ofGrains, hsign]
  simp only [Int.natAbs_natCast]

theorem ofNat_zero : ofNat 0 = zeroOfSign false := by
  have hrank : nearestRank (0 * grainsInOne) 1 = 0 := by
    rw [Nat.zero_mul]
    exact nearestRank_eq_zero (by decide)
  rw [ofNat_eq, zeroOfSign]
  simp only [hrank]

theorem nearestRank_lt_infinityRank_of_le {n : Nat} (h : n ≤ 2 ^ 53) :
    nearestRank (n * grainsInOne) 1 < infinityRank := by
  have hbits : (n : Int).natAbs < 2 ^ 54 := by omega
  have hfinite : (ofNat n).isFinite = true := by
    rw [ofNat]
    exact isFinite_ofInt (by decide) hbits
  rwa [ofNat_eq, isFinite, decide_eq_true_eq] at hfinite

/-- A number below `2 ^ 53` is nearest to a lower magnitude than every greater number. -/
theorem nearestRank_lt_nearestRank {m n : Nat} (hm : m < 2 ^ 53) (h : m < n) :
    nearestRank (m * grainsInOne) 1 < nearestRank (n * grainsInOne) 1 := by
  rw [← strictMono_grains.lt_iff_lt, grains_nearestRank_of_le (Nat.le_of_lt hm)]
  by_cases hn : n ≤ 2 ^ 53
  · rw [grains_nearestRank_of_le hn]
    exact Nat.mul_lt_mul_of_pos_right h grainsInOne_pos
  · have hlarge : 2 ^ 53 * grainsInOne ≤ n * grainsInOne / 1 := by
      rw [Nat.div_one]
      exact Nat.mul_le_mul_right _ (Nat.le_of_not_le hn)
    calc m * grainsInOne
        < 2 ^ 53 * grainsInOne := Nat.mul_lt_mul_of_pos_right hm grainsInOne_pos
      _ ≤ grains (nearestRank (n * grainsInOne) 1) := le_grains_nearestRank hlarge

/-- A number below `2 ^ 53` compares with every natural number as its nearest number does. -/
theorem compare?_ofNat {m : Nat} (hm : m < 2 ^ 53) (n : Nat) :
    (ofNat m).compare? (ofNat n) = some (compare m n) := by
  rw [ofNat_eq, ofNat_eq, compare?, position?, position?]
  apply congrArg some
  rcases Nat.lt_trichotomy m n with h | rfl | h
  · rw [compare_lt_iff_lt.mpr h, compare_lt_iff_lt]
    exact Int.ofNat_lt.mpr (nearestRank_lt_nearestRank hm h)
  · exact (compare_eq_iff_eq.mpr rfl).trans (compare_eq_iff_eq.mpr rfl).symm
  · rw [compare_gt_iff_gt.mpr h, compare_gt_iff_gt]
    exact Int.ofNat_lt.mpr (nearestRank_lt_nearestRank (Nat.lt_trans h hm) h)

/-- The difference of two numbers up to `2 ^ 53` is exact. -/
theorem sub_ofNat {m n : Nat} (hm : m ≤ 2 ^ 53) (h : n ≤ m) :
    (ofNat m).sub (ofNat n) = ofNat (m - n) := by
  have hfinite := Nat.ne_of_lt (nearestRank_lt_infinityRank_of_le hm)
  have hfinite' := Nat.ne_of_lt (nearestRank_lt_infinityRank_of_le (Nat.le_trans h hm))
  have hsum : signedGrains false (nearestRank (m * grainsInOne) 1) +
      signedGrains (!false) (nearestRank (n * grainsInOne) 1) =
        ((m - n) * grainsInOne : Nat) := by
    rw [signedGrains, signedGrains, if_neg Bool.false_ne_true, if_pos Bool.not_false,
      grains_nearestRank_of_le hm, grains_nearestRank_of_le (Nat.le_trans h hm), Nat.sub_mul]
    have hle := Nat.mul_le_mul_right grainsInOne h
    omega
  rw [ofNat_eq m, ofNat_eq n, sub, neg, add, if_neg hfinite, if_neg hfinite']
  simp only [hsum, Int.natAbs_natCast]
  split_ifs with hzero
  · have hdifference : m - n = 0 := eq_zero_of_mul_grainsInOne (Int.natCast_eq_zero.mp hzero)
    rw [hdifference, ofNat_zero, Bool.not_false, Bool.false_and]
  · rw [ofNat_eq, ofGrains, decide_eq_false (by omega)]

end FieldTags.Binary64
