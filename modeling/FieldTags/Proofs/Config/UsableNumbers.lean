import FieldTags.Config.View
import FieldTags.Proofs.Config.Assembly
import FieldTags.Proofs.Config.FieldOrder
import FieldTags.Proofs.Config.Numbers
import FieldTags.Proofs.Number.Order

/-!
# Numbers of assembled configurations in use

Defaults stand in for a width or a count in two places: in assembled settings for a value that counts
as false, and in use for a value that is no number or has the wrong sign. A width that is used is
therefore finite and not zero. A count is cut down to a whole number only after both places, so that
it is at least one unless its last row gives a positive number below one, of which nothing is left.
-/

namespace FieldTags

namespace Binary64

/-! ## The integral part of positive numbers -/

theorem signedPosition_pos_iff {negative : Bool} {rank : Nat} :
    0 < signedPosition negative rank ↔ negative = false ∧ 0 < rank := by
  cases negative with
  | false => simp [signedPosition]
  | true =>
    simp only [signedPosition, if_true, Bool.true_eq_false, false_and, iff_false]
    omega

theorem zero_less_iff {negative : Bool} {rank : Nat} {hrank : rank ≤ infinityRank} :
    (ofNat 0).less (signed negative rank hrank) = true ↔ negative = false ∧ 0 < rank := by
  rw [ofNat_zero, zeroOfSign, less_signed_iff]
  exact signedPosition_pos_iff

theorem less_one_iff {rank : Nat} {hrank : rank ≤ infinityRank} :
    (signed false rank hrank).less (ofNat 1) = true ↔ grains rank < grainsInOne := by
  have hone : grains (nearestRank (1 * grainsInOne) 1) = grainsInOne := by
    rw [grains_nearestRank_of_le (by decide), Nat.one_mul]
  rw [ofNat_eq, less_signed_iff, signedPosition, signedPosition, if_neg Bool.false_ne_true,
    if_neg Bool.false_ne_true, Int.ofNat_lt, ← strictMono_grains.lt_iff_lt, hone]

/-- A positive number has an integral part exactly if it is not below one. -/
theorem one_le_clampToInt_iff {x : Binary64} {high : Int} (hhigh : 1 ≤ high)
    (hpos : (ofNat 0).less x = true) : 1 ≤ x.clampToInt 0 high ↔ ¬ x.less (ofNat 1) = true := by
  cases x with
  | nan => cases hpos
  | signed negative rank hrank =>
    obtain ⟨rfl, -⟩ := zero_less_iff.mp hpos
    rw [less_one_iff, Nat.not_lt, clampToInt]
    by_cases hinfinite : rank = infinityRank
    · have hlarge : grainsInOne ≤ grains infinityRank := by decide +kernel
      rw [if_pos hinfinite, if_neg Bool.false_ne_true, hinfinite]
      exact iff_of_true hhigh hlarge
    · have hquotient : grainsInOne ≤ grains rank ↔ 1 ≤ grains rank / grainsInOne := by
        rw [Nat.le_div_iff_mul_le grainsInOne_pos, Nat.one_mul]
      simp only [if_neg hinfinite, if_neg Bool.false_ne_true]
      rw [hquotient, ← Int.natCast_ediv]
      omega

end Binary64

namespace TagValue

/-- A scalar that counts as a positive number below one. -/
def IsFraction (value : TagValue) : Prop :=
  ∃ x, value.number? = some x ∧ (Binary64.ofNat 0).less x = true ∧ x.less (.ofNat 1) = true

theorem IsFraction.isTruthy {value : TagValue} (h : value.IsFraction) : value.isTruthy = true := by
  obtain ⟨x, hx, hpos, -⟩ := h
  cases value with
  | bool b => cases hx
  | number y =>
    cases hx
    cases x with
    | nan => cases hpos
    | signed negative rank hrank =>
      have hrank := (Binary64.zero_less_iff.mp hpos).2
      simp [TagValue.isTruthy, Binary64.isZero, Binary64.isNaN, Nat.ne_of_gt hrank]
  | text s =>
    -- The empty text is no number.
    refine decide_eq_true ?_
    rintro rfl
    cases hx

theorem isFinite_of_number? {value : TagValue} {x : Binary64}
    (hfinite : Binary64.AllFinite value.numbers) (h : value.number? = some x) :
    x.isFinite = true := by
  cases value with
  | bool b => cases h
  | number y =>
    cases h
    exact hfinite x List.mem_cons_self
  | text s => exact Binary64.isFinite_of_ofText? h

end TagValue

/-! ## Settings with defaults -/

/-- A default takes the place of a value that counts as false, and is no fraction itself. -/
theorem ModelSettings.forall_orNumber_iff (value : Option TagValue) {n : Nat}
    (hn : ¬ (TagValue.number (.ofNat n)).IsFraction) :
    (∀ given ∈ orNumber value n, ¬ given.IsFraction) ↔ ∀ given ∈ value, ¬ given.IsFraction := by
  have hdefault : ∀ given ∈ some (TagValue.number (.ofNat n)), ¬ given.IsFraction := by
    rintro given ⟨⟩
    exact hn
  rw [orNumber_eq]
  split_ifs with htruthy
  · rfl
  · refine iff_of_true hdefault fun given hgiven hfraction ↦ htruthy ?_
    rw [Option.mem_def.mp hgiven]
    exact hfraction.isTruthy

namespace ModelConfig

theorem searchDefaultCount_assemble (model : String) (rows : List TagRow) :
    (assemble model rows).settings.searchDefaultCount =
      ModelSettings.orNumber
        (TagRow.lastSet ModelSettings.searchDefaultCount (rows.filter TagRow.isSettings)) 3 := by
  rw [assemble, foldl_addRow, ModelSettings.foldl_addRow, ModelSettings.withDefaults]
  simp only [start, ModelSettings.empty, Option.or_none]

/-! ## Numbers in use -/

/-- A width in use is finite, if those of the configuration are, and not zero. -/
theorem actionWidth_of_allFinite {config : ModelConfig} (h : Binary64.AllFinite config.numbers) :
    config.actionWidth.isFinite = true ∧ config.actionWidth.isZero = false := by
  have hdefault : (Binary64.ofNat 150).isFinite = true ∧ (Binary64.ofNat 150).isZero = false := by
    decide +kernel
  unfold actionWidth
  cases hwidth : config.settings.actionWidth.bind TagValue.number? with
  | none => exact hdefault
  | some x =>
    dsimp only
    split_ifs with hzero
    · exact hdefault
    · obtain ⟨value, hvalue, hx⟩ := Option.bind_eq_some_iff.mp hwidth
      have hsettings := (ModelSettings.allFinite_iff.mp (allFinite_iff.mp h).1).1
      exact ⟨TagValue.isFinite_of_number? (hsettings value hvalue) hx,
        Bool.eq_false_iff.mpr hzero⟩

/-- A count in use is at least one exactly if it is not cut down from a fraction. -/
theorem one_le_searchDefaultCount_iff (config : ModelConfig) :
    1 ≤ config.searchDefaultCount ↔
      ∀ value ∈ config.settings.searchDefaultCount, ¬ value.IsFraction := by
  have hmax : (1 : Int) ≤ maxUInt64 := by decide
  have hdefault : 1 ≤ ((Binary64.ofNat 3).clampToInt 0 maxUInt64).toNat := by decide +kernel
  unfold searchDefaultCount
  cases config.settings.searchDefaultCount with
  | none => exact iff_of_true hdefault nofun
  | some value =>
    have hvalue : (∀ given ∈ some value, ¬ given.IsFraction) ↔ ¬ value.IsFraction := by simp
    rw [Option.bind_some, hvalue, TagValue.IsFraction]
    cases value.number? with
    | none => exact iff_of_true hdefault (by simp)
    | some x =>
      by_cases hpos : (Binary64.ofNat 0).less x = true
      · have hcount : 1 ≤ (x.clampToInt 0 maxUInt64).toNat ↔ 1 ≤ x.clampToInt 0 maxUInt64 := by
          omega
        simp [hpos, hcount, Binary64.one_le_clampToInt_iff hmax hpos]
      · simp [hpos, hdefault]

/--
The width of an assembled configuration is finite and not zero, whatever its rows give. The count is
at least one exactly if the last row that sets it does not give a positive number below one.
-/
theorem assembled_numbers_usable_unless_fraction (model : String) (rows : List TagRow) :
    (assemble model rows).actionWidth.isFinite = true ∧
      (assemble model rows).actionWidth.isZero = false ∧
      (1 ≤ (assemble model rows).searchDefaultCount ↔
        ∀ value ∈ TagRow.lastSet ModelSettings.searchDefaultCount (rows.filter TagRow.isSettings),
          ¬ value.IsFraction) := by
  obtain ⟨hfinite, hzero⟩ := actionWidth_of_allFinite (allFinite_assemble model rows)
  have hthree : ¬ (TagValue.number (.ofNat 3)).IsFraction := by
    rintro ⟨x, hx, -, hless⟩
    cases hx
    revert hless
    decide +kernel
  refine ⟨hfinite, hzero, ?_⟩
  rw [one_le_searchDefaultCount_iff, searchDefaultCount_assemble,
    ModelSettings.forall_orNumber_iff _ hthree]

/-- Half a search field is cut down to none. -/
theorem not_forall_one_le_searchDefaultCount :
    ¬ ∀ (model : String) (rows : List TagRow),
      1 ≤ (assemble model rows).searchDefaultCount ∧
        (assemble model rows).actionWidth.isZero = false := by
  intro h
  have hcount := (h "User" [⟨TagRow.settingsField, "search-default-count:0.5"⟩]).1
  have hnone : (assemble "User"
      [⟨TagRow.settingsField, "search-default-count:0.5"⟩]).searchDefaultCount = 0 := by
    decide +kernel
  omega

end ModelConfig

end FieldTags
