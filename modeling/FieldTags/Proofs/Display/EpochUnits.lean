import FieldTags.Proofs.Display.Formatting
import FieldTags.Proofs.Number.WholeNumberText

/-!
# Units of time stamps

A number counts seconds if its text has ten characters, and milliseconds otherwise. The text of an
integer has its digits and, if it is negative, a minus sign. So the number of digits decides the unit
of an integer that is not negative; of the negative ones those with nine digits count seconds, and
those with ten count milliseconds. Integers that are too long to be kept exactly count no
representable time in either unit.
-/

namespace FieldTags

/-- The unit of a time stamp. -/
inductive EpochUnit where
  | second
  | millisecond
  deriving DecidableEq

namespace EpochUnit

/-- The unit of an integer by its digits: ten of them count seconds. -/
def ofDigits (n : Int) : EpochUnit :=
  if Decimal.digitCount n.natAbs = 10 then .second else .millisecond

/-- The unit of an integer by its text, of which a minus sign is a part. -/
def ofText (n : Int) : EpochUnit :=
  if (integerChars n).length = 10 then .second else .millisecond

/-- The second in which the instant falls that an integer counts, from the start of 1970. -/
def instant (n : Int) : EpochUnit → Int
  | .second => n
  | .millisecond => n / 1000

end EpochUnit

theorem length_integerChars (n : Int) :
    (integerChars n).length = Decimal.digitCount n.natAbs + if n < 0 then 1 else 0 := by
  rw [integerChars, List.length_append, Nat.add_comm, Decimal.digitCount]
  split_ifs <;> rfl

namespace EpochUnit

/-- The minus sign misleads about the number of digits: nine digits pass for ten, or ten do not. -/
def IsMisled (n : Int) : Prop :=
  n < 0 ∧ (Decimal.digitCount n.natAbs = 9 ∨ Decimal.digitCount n.natAbs = 10)

theorem ofText_eq_ofDigits {n : Int} (h : ¬ IsMisled n) : ofText n = ofDigits n := by
  have hlength := length_integerChars n
  rw [IsMisled] at h
  rw [ofText, ofDigits]
  by_cases hn : n < 0
  · rw [if_pos hn] at hlength
    rw [if_neg (by omega), if_neg (by omega)]
  · rw [if_neg hn, Nat.add_zero] at hlength
    rw [hlength]

/-- One of the two is in seconds, and so many seconds are not as many milliseconds. -/
theorem instant_ofText_ne {n : Int} (h : IsMisled n) :
    (ofText n).instant n ≠ (ofDigits n).instant n := by
  obtain ⟨hn, hdigits⟩ := h
  have hlength := length_integerChars n
  rw [if_pos hn] at hlength
  have hlong : 10 ^ 8 ≤ n.natAbs :=
    Nat.le_trans (Nat.pow_le_pow_right (by decide) (by omega))
      (Decimal.pow_digitCount_le (by omega))
  rw [ofText, ofDigits]
  split_ifs <;> simp only [instant] <;> omega

end EpochUnit

/-! ## The instant that an integer counts -/

namespace LocalTime

theorem isRepresentable_iff_seconds {seconds : Int} :
    (LocalTime.mk seconds).isRepresentable = true ↔
      -8334601228800 ≤ seconds ∧ seconds < 8210266876800 := by
  have hfirst : first = -8334601228800 := by decide
  have hlimit : limit = 8210266876800 := by decide
  rw [isRepresentable, hfirst, hlimit, Bool.and_eq_true, decide_eq_true_eq, decide_eq_true_eq]

end LocalTime

/-- A number from `2 ^ 53` on counts no representable time. -/
theorem epochSeconds?_of_long {x : Binary64} (hfinite : x.isFinite = true)
    (h : 2 ^ 53 * Binary64.grainsInOne ≤ x.grainValue.natAbs) : epochSeconds? x = none := by
  obtain ⟨millis, hmillis⟩ : ∃ millis, millis =
      if x.scriptText.length = 10 then x.mul (.ofNat 1000) else x := ⟨_, rfl⟩
  have hlong : 2 ^ 53 * Binary64.grainsInOne ≤ millis.grainValue.natAbs := by
    rw [hmillis]
    split_ifs
    · exact Binary64.le_grainValue_mul_ofNat hfinite (by decide) (by decide) h
    · exact h
  have hlow : minInt64 ≤ -2 ^ 53 := by decide
  have hhigh : 2 ^ 53 ≤ maxInt64 := by decide
  have hclamp := Binary64.le_clampToInt hlow hhigh hlong
  rw [epochSeconds?, if_pos hfinite]
  simp only [← hmillis]
  rw [if_neg]
  rw [LocalTime.isRepresentable_iff_seconds, Int.fdiv_eq_ediv_of_nonneg _ (by decide)]
  omega

/-- The time that an integer counts in the unit of its text. -/
theorem epochSeconds?_of_integer {x : JsonNumber} {n : Int}
    (h : x.grainValue = n * Binary64.grainsInOne) :
    epochSeconds? x.toBinary64 =
      if (LocalTime.mk ((EpochUnit.ofText n).instant n)).isRepresentable then
        some ((EpochUnit.ofText n).instant n)
      else none := by
  have hfinite := x.isFinite_toBinary64
  by_cases hlong : 2 ^ 53 ≤ n.natAbs
  · rw [epochSeconds?_of_long hfinite (x.le_grainValue_toBinary64 h hlong), if_neg]
    rw [LocalTime.isRepresentable_iff_seconds]
    cases EpochUnit.ofText n <;> simp only [EpochUnit.instant] <;> omega
  · have hshort : n.natAbs < 2 ^ 53 := Nat.not_le.mp hlong
    have hvalue := x.grainValue_toBinary64_of_le h (Nat.le_of_lt hshort)
    have hlength : x.toBinary64.scriptText.length = (integerChars n).length := by
      rw [← String.length_toList, Binary64.toList_scriptText_whole hfinite hshort hvalue]
    have hlow : minInt64 ≤ -2 ^ 53 := by decide
    have hhigh : 2 ^ 53 ≤ maxInt64 := by decide
    rw [epochSeconds?, if_pos hfinite, hlength, EpochUnit.ofText]
    by_cases hten : (integerChars n).length = 10
    · have hdigits : n.natAbs < 10 ^ 10 := by
        rw [← Decimal.digitCount_le_iff (by decide)]
        have := length_integerChars n
        omega
      obtain ⟨hfiniteMillis, hmillis⟩ := Binary64.mul_ofNat_of_whole hfinite hvalue (k := 1000)
        (by decide) (by omega)
      have hclamp : (x.toBinary64.mul (.ofNat 1000)).clampToInt minInt64 maxInt64 =
          n * (1000 : Nat) :=
        Binary64.clampToInt_of_whole hfiniteMillis hmillis (by omega) (by omega)
      have hquotient : Int.fdiv (n * (1000 : Nat)) 1000 = n := by
        rw [Int.fdiv_eq_ediv_of_nonneg _ (by decide)]
        omega
      simp only [if_pos hten, hclamp, hquotient, EpochUnit.instant]
    · have hclamp : x.toBinary64.clampToInt minInt64 maxInt64 = n :=
        Binary64.clampToInt_of_whole hfinite hvalue (by omega) (by omega)
      simp only [if_neg hten, hclamp, EpochUnit.instant]
      rw [Int.fdiv_eq_ediv_of_nonneg _ (by decide)]

/-! ## What is shown of an integer -/

namespace Formatter

/-- What is shown of an instant: its local time by a pattern, or the placeholder if the instant is
not representable. -/
def showInstant (f : Formatter) (seconds : Int) (pattern : String) :
    Except FormatError DisplayValue :=
  if (LocalTime.mk seconds).isRepresentable then
    (toLocalTime f.settings.offsetSeconds seconds).map fun time ↦
      .text (time.render f.settings.weekdayNames pattern)
  else .ok f.placeholder

theorem formatTime_integer (f : Formatter) {x : JsonNumber} {n : Int}
    (h : x.grainValue = n * Binary64.grainsInOne) (pattern : String) :
    f.formatTime (.number x) pattern =
      if n = 0 then .ok f.placeholder
      else f.showInstant ((EpochUnit.ofText n).instant n) pattern := by
  have hzero := x.isZero_toBinary64_iff h
  rw [formatTime, Json.isTruthy, Binary64.isNaN_of_isFinite x.isFinite_toBinary64,
    TimeReading.ofJson, TimeReading.ofNumber, epochSeconds?_of_integer h]
  by_cases hn : n = 0
  · rw [hzero.mpr hn, if_pos hn]
    rfl
  · rw [Bool.eq_false_iff.mpr (mt hzero.mp hn), if_neg (by decide), if_neg hn, showInstant]
    split_ifs with hrange
    · dsimp only [TimeReading.toLocal]
      cases toLocalTime f.settings.offsetSeconds ((EpochUnit.ofText n).instant n) <;> rfl
    · rfl

theorem formatValue_integer (f : Formatter) {x : JsonNumber} {n : Int} {spec : Option String}
    {format : FormatterSpec} (hvalue : x.grainValue = n * Binary64.grainsInOne)
    (hspec : spec.bind FormatterSpec.read? = some format) (htime : format.IsTime) :
    f.formatValue (some (.number x)) spec =
      if n = 0 then .ok f.placeholder
      else f.showInstant ((EpochUnit.ofText n).instant n) format.pattern := by
  have hblank : Json.isBlank (some (.number x)) = false := rfl
  rw [← formatTime_integer f hvalue, ← f.formatBy_eq_formatTime _ htime, formatValue,
    if_neg (Bool.eq_false_iff.mp hblank), hspec]

/--
A formatter of times shows of an integer the instant that it counts in the unit by the number of its
digits, and the placeholder of zero. Only where the minus sign misleads about this number, it shows
another instant, which is that in the unit by the text.
-/
theorem formatValue_integer_unless_misled (f : Formatter) {x : JsonNumber} {n : Int}
    {spec : Option String} {format : FormatterSpec}
    (hvalue : x.grainValue = n * Binary64.grainsInOne)
    (hspec : spec.bind FormatterSpec.read? = some format) (htime : format.IsTime) :
    (¬ EpochUnit.IsMisled n →
      f.formatValue (some (.number x)) spec =
        if n = 0 then .ok f.placeholder
        else f.showInstant ((EpochUnit.ofDigits n).instant n) format.pattern) ∧
      (EpochUnit.IsMisled n →
        f.formatValue (some (.number x)) spec =
            f.showInstant ((EpochUnit.ofText n).instant n) format.pattern ∧
          (EpochUnit.ofText n).instant n ≠ (EpochUnit.ofDigits n).instant n) := by
  constructor
  · intro h
    rw [f.formatValue_integer hvalue hspec htime, EpochUnit.ofText_eq_ofDigits h]
  · intro h
    refine ⟨?_, EpochUnit.instant_ofText_ne h⟩
    have hne : n ≠ 0 := Int.ne_of_lt h.1
    rw [f.formatValue_integer hvalue hspec htime, if_neg hne]

/-- A negative integer of eleven digits. -/
def elevenDigits : JsonNumber :=
  .integer (-12345678901) (by decide)

/-- It counts milliseconds, as its digits say. -/
theorem formatValue_elevenDigits :
    (ofSettings .default).formatValue (some (.number elevenDigits)) (some "datetime") =
      .ok (.text "1969-08-11 02:38:41") := by
  have hdigits : ¬ EpochUnit.IsMisled (-12345678901) := by
    rintro ⟨-, hdigits⟩
    revert hdigits
    decide
  have hvalue : elevenDigits.grainValue = -12345678901 * Binary64.grainsInOne := rfl
  have hspec : (some "datetime").bind FormatterSpec.read? = some ⟨.datetime, none⟩ := by
    decide +kernel
  rw [(formatValue_integer_unless_misled (ofSettings .default) hvalue hspec (.inr rfl)).1 hdigits]
  decide +kernel

/-- A negative integer of ten digits. -/
def tenDigits : JsonNumber :=
  .integer (-1234567890) (by decide)

/-- It counts milliseconds, although ten digits are to count seconds. -/
theorem not_forall_formatValue_ofDigits :
    ¬ ∀ (f : Formatter) (x : JsonNumber) (n : Int) (spec : Option String) (format : FormatterSpec),
      x.grainValue = n * Binary64.grainsInOne → spec.bind FormatterSpec.read? = some format →
        format.IsTime → f.formatValue (some (.number x)) spec =
          if n = 0 then .ok f.placeholder
          else f.showInstant ((EpochUnit.ofDigits n).instant n) format.pattern := by
  intro h
  have hshown := h (ofSettings .default) tenDigits (-1234567890) (some "datetime")
    ⟨.datetime, none⟩ rfl (by decide +kernel) (.inr rfl)
  have hmillis : (ofSettings .default).formatValue (some (.number tenDigits)) (some "datetime") =
      .ok (.text "1969-12-17 17:03:52") := by
    decide +kernel
  have hseconds : (ofSettings .default).showInstant
      ((EpochUnit.ofDigits (-1234567890)).instant (-1234567890))
      (FormatterSpec.pattern ⟨.datetime, none⟩) = .ok (.text "1930-11-18 00:28:30") := by
    decide +kernel
  rw [hmillis, if_neg (by decide), hseconds] at hshown
  revert hshown
  decide

end Formatter

end FieldTags
