import FieldTags.Display.Format
import FieldTags.Proofs.Display.Calendar
import FieldTags.Proofs.Number.ShortestDecimal
import Mathlib.Tactic.Common

/-!
# What is shown for every value

Formatting shows something for every value under every formatter, up to one kind of value. A number
or a text of digits counts a universal time, and if this is representable and the offset of the
settings shifts it past the end of the representable times, a formatter of times fails. This needs an
offset and a time that is less than a day from an end. Zoned texts have years of four digits, so that
no offset shifts them out, and a value without a representable time shows the placeholder.
-/

namespace FieldTags

/-! ## Bounds of what is read -/

namespace DateText

theorem readDigits_lt {least most n : Nat} {cs rest : List Char}
    (h : readDigits least most cs = some (n, rest)) : n < 10 ^ most := by
  rw [readDigits, Option.ite_none_right_eq_some, Option.some.injEq, Prod.mk.injEq] at h
  obtain ⟨-, rfl, -⟩ := h
  have hdigits : ∀ c ∈ (cs.take most).takeWhile Char.isDigit, c.isDigit = true :=
    fun c hc ↦ List.mem_takeWhile_imp hc
  have hlength : ((cs.take most).takeWhile Char.isDigit).length ≤ most :=
    Nat.le_trans (List.takeWhile_sublist _).length_le (List.length_take_le _ _)
  exact Nat.lt_of_lt_of_le (Decimal.digitsValue_lt hdigits)
    (Nat.pow_le_pow_right (by decide) hlength)

/-- An offset from universal time is less than a day. -/
theorem readOffset_lt {cs : List Char} {offset : Int} (h : readOffset cs = some offset) :
    offset.natAbs < 86400 := by
  unfold readOffset at h
  split at h
  · cases h
    decide
  · cases h
    decide
  · simp only [Option.bind_eq_bind, Option.pure_def, Option.bind_none, Option.bind_eq_some_iff,
      Option.ite_none_left_eq_some, Option.some.injEq, Bool.or_eq_true, decide_eq_true_eq,
      not_or] at h
    obtain ⟨-, hours, -, colon, -, minutes, -, ⟨⟨-, hhours⟩, hminutes⟩, rfl⟩ := h
    split_ifs <;> omega
  · cases h

theorem length_of_readDigits {least most n : Nat} {cs rest : List Char}
    (h : readDigits least most cs = some (n, rest)) : least + rest.length ≤ cs.length := by
  rw [readDigits, Option.ite_none_right_eq_some, Option.some.injEq, Prod.mk.injEq] at h
  obtain ⟨hleast, -, rfl⟩ := h
  have hle := ((List.takeWhile_sublist Char.isDigit).trans (List.take_sublist most cs)).length_le
  rw [List.length_drop]
  omega

theorem length_of_readChar {c : Char} {cs rest : List Char} (h : readChar c cs = some rest) :
    1 + rest.length ≤ cs.length := by
  cases cs with
  | nil => cases h
  | cons d more =>
    rw [readChar, Option.ite_none_right_eq_some, Option.some.injEq] at h
    rw [h.2, List.length_cons, Nat.add_comm]

theorem length_of_readZonedMark {cs rest : List Char} (h : readZonedMark cs = some rest) :
    1 + rest.length ≤ cs.length := by
  cases cs with
  | nil => cases h
  | cons d more =>
    rw [readZonedMark, Option.ite_none_right_eq_some, Option.some.injEq] at h
    rw [h.2, List.length_cons, Nat.add_comm]

theorem length_of_readFraction {cs rest : List Char} (h : readFraction cs = some rest) :
    rest.length ≤ cs.length := by
  unfold readFraction at h
  split at h
  · obtain ⟨⟨n, after⟩, hread, rfl⟩ := Option.map_eq_some_iff.mp h
    have hle := length_of_readDigits hread
    rw [List.length_cons]
    dsimp only
    omega
  · cases h
    exact Nat.le_refl _

/-- Not even the shortest offset follows the end of a text. -/
theorem length_of_readOffset {cs : List Char} {offset : Int} (h : readOffset cs = some offset) :
    1 ≤ cs.length := by
  cases cs with
  | nil => cases h
  | cons c rest => exact Nat.le_add_left 1 _

/-- A zoned time is the local time of fields, with a year of four digits, less its offset. Its fields
and the marks between them have nineteen characters. -/
theorem exists_of_readZoned {cs : List Char} {seconds : Int} (h : readZoned cs = some seconds) :
    ∃ (fields : DateFields) (time : LocalTime) (offset : Int), fields.toLocal? = some time ∧
      0 ≤ fields.date.year ∧ fields.date.year < 10000 ∧ offset.natAbs < 86400 ∧
        time.seconds - offset = seconds ∧ 20 ≤ cs.length := by
  unfold readZoned at h
  obtain ⟨⟨year, _⟩, hyear, h⟩ := Option.bind_eq_some_iff.mp h
  obtain ⟨_, hdash, h⟩ := Option.bind_eq_some_iff.mp h
  obtain ⟨⟨month, _⟩, hmonth, h⟩ := Option.bind_eq_some_iff.mp h
  obtain ⟨_, hdash', h⟩ := Option.bind_eq_some_iff.mp h
  obtain ⟨⟨day, _⟩, hday, h⟩ := Option.bind_eq_some_iff.mp h
  obtain ⟨_, hmark, h⟩ := Option.bind_eq_some_iff.mp h
  obtain ⟨⟨hour, _⟩, hhour, h⟩ := Option.bind_eq_some_iff.mp h
  obtain ⟨_, hcolon, h⟩ := Option.bind_eq_some_iff.mp h
  obtain ⟨⟨minute, _⟩, hminute, h⟩ := Option.bind_eq_some_iff.mp h
  obtain ⟨_, hcolon', h⟩ := Option.bind_eq_some_iff.mp h
  obtain ⟨⟨second, _⟩, hsecond, h⟩ := Option.bind_eq_some_iff.mp h
  obtain ⟨_, hfraction, h⟩ := Option.bind_eq_some_iff.mp h
  obtain ⟨offset, hoffset, h⟩ := Option.bind_eq_some_iff.mp h
  obtain ⟨time, htime, h⟩ := Option.bind_eq_some_iff.mp h
  have hlt : year < 10 ^ 4 := readDigits_lt hyear
  have hlength : 20 ≤ cs.length := by
    have := length_of_readDigits hyear
    have := length_of_readChar hdash
    have := length_of_readDigits hmonth
    have := length_of_readChar hdash'
    have := length_of_readDigits hday
    have := length_of_readZonedMark hmark
    have := length_of_readDigits hhour
    have := length_of_readChar hcolon
    have := length_of_readDigits hminute
    have := length_of_readChar hcolon'
    have := length_of_readDigits hsecond
    have := length_of_readFraction hfraction
    have := length_of_readOffset hoffset
    omega
  exact ⟨_, time, offset, htime, Int.natCast_nonneg year, Int.ofNat_lt.mpr hlt,
    readOffset_lt hoffset, Option.some.inj h, hlength⟩

/-- A zoned time is in a year of four digits, up to its offset. -/
theorem readZoned_bounds {cs : List Char} {seconds : Int} (h : readZoned cs = some seconds) :
    (CalendarDate.newYear 0).toDays * LocalTime.daySeconds - 86400 < seconds ∧
      seconds < (CalendarDate.newYear 10000).toDays * LocalTime.daySeconds + 86400 := by
  obtain ⟨fields, time, offset, htime, hlow, hhigh, hoffset, rfl, -⟩ := exists_of_readZoned h
  obtain ⟨hfirst, hlast⟩ := LocalTime.toLocal?_bounds htime
  have hstart := CalendarDate.toDays_newYear_mono hlow
  have hend := CalendarDate.toDays_newYear_mono (Int.add_one_le_of_lt hhigh)
  rw [LocalTime.daySeconds] at hfirst hlast ⊢
  omega

/-- A naive time is representable. -/
theorem isRepresentable_of_readNaive {cs : List Char} {time : LocalTime}
    (h : readNaive cs = some time) : time.isRepresentable = true := by
  rw [readNaive, List.findSome?_eq_some_iff] at h
  obtain ⟨-, parts, -, -, hread, -⟩ := h
  rw [readAs, Option.bind_eq_some_iff] at hread
  obtain ⟨fields, -, htime⟩ := hread
  exact LocalTime.isRepresentable_of_toLocal? htime

end DateText

theorem RenderSettings.offsetSeconds_lt (settings : RenderSettings) :
    settings.offsetSeconds.natAbs < 86400 := by
  rw [offsetSeconds]
  split_ifs with h
  · exact h
  · decide

theorem Binary64.clampToInt_bounds {low high : Int} (hlow : low ≤ 0) (hhigh : 0 ≤ high)
    (x : Binary64) : low ≤ x.clampToInt low high ∧ x.clampToInt low high ≤ high := by
  cases x with
  | nan => exact ⟨hlow, hhigh⟩
  | signed negative rank hrank =>
    rw [clampToInt]
    dsimp only
    split_ifs <;> omega

/-- No formatter asks for more than twenty decimals. -/
theorem decimalPlaces_le (params : Option String) {default : Nat} (h : default ≤ 20) :
    decimalPlaces params default ≤ 20 := by
  rw [decimalPlaces]
  cases params.bind Binary64.ofText? with
  | none => exact h
  | some x =>
    dsimp only
    split_ifs with hnegative
    · exact h
    · have hclamp : x.clampToInt 0 20 ≤ 20 := (x.clampToInt_bounds (by decide) (by decide)).2
      omega

theorem decimalText_of_le {x : Binary64} {places : Nat} (h : places ≤ 20) :
    decimalText x places = .ok (x.fixedText places) := by
  rw [decimalText, maxDecimals, if_pos (by omega)]

/-! ## The time of a value -/

/-- The local time of a reading, if it is one and this is representable. -/
def TimeReading.localTime? (offset : Int) : TimeReading → Option LocalTime
  | .none => Option.none
  | .naive time => some time
  | .universal seconds =>
    let time : LocalTime := ⟨seconds + offset⟩
    if time.isRepresentable then some time else Option.none

namespace Json

/-- The number that a value counts a time by: a number, or a text of digits. -/
def count? : Json → Option Binary64
  | .number n => some n.toBinary64
  | .string s =>
    let cs := Text.trimChars s.toList
    if cs ≠ [] && cs.all Char.isDigit then
      some (Decimal.toBinary64 false ⟨Decimal.digitsValue cs, 0⟩)
    else none
  | _ => none

/-- The local time of a value, if it has one and this is representable. -/
def localTime? (offset : Int) (value : Json) : Option LocalTime :=
  (TimeReading.ofJson value).localTime? offset

/-- The offset shifts the time that a value counts out of the representable times. -/
def IsShiftedOut (offset : Int) (value : Json) : Prop :=
  ∃ x seconds, value.count? = some x ∧ epochSeconds? x = some seconds ∧
    (LocalTime.mk (seconds + offset)).isRepresentable = false

end Json

theorem isRepresentable_of_epochSeconds? {x : Binary64} {seconds : Int}
    (h : epochSeconds? x = some seconds) : (LocalTime.mk seconds).isRepresentable = true := by
  rw [epochSeconds?, Option.ite_none_right_eq_some] at h
  obtain ⟨-, h⟩ := h
  dsimp only at h
  rw [Option.ite_none_right_eq_some, Option.some.injEq] at h
  obtain ⟨hrange, rfl⟩ := h
  exact hrange

theorem isNaN_of_epochSeconds? {x : Binary64} {seconds : Int} (h : epochSeconds? x = some seconds) :
    x.isNaN = false := by
  cases x with
  | nan => cases h
  | signed negative rank hrank => rfl

theorem epochSeconds?_of_isZero {x : Binary64} (h : x.isZero = true) :
    epochSeconds? x = some 0 := by
  have hzero (negative : Bool) : epochSeconds? (.zeroOfSign negative) = some 0 := by
    cases negative <;> decide +kernel
  cases x with
  | nan => cases h
  | signed negative rank hrank =>
    rw [Binary64.isZero, beq_iff_eq] at h
    subst h
    exact hzero negative

namespace TimeReading

theorem ofNumber_eq_universal_iff {x : Binary64} {seconds : Int} :
    ofNumber x = .universal seconds ↔ epochSeconds? x = some seconds := by
  rw [ofNumber]
  cases epochSeconds? x <;> simp

theorem ofJson_of_count? {value : Json} {x : Binary64} (h : value.count? = some x) :
    ofJson value = .ofNumber x := by
  cases value with
  | number n =>
    cases h
    rfl
  | string s =>
    rw [Json.count?, Option.ite_none_right_eq_some, Option.some.injEq] at h
    obtain ⟨hdigits, rfl⟩ := h
    rw [ofJson, ofText, if_pos hdigits]
  | _ => cases h

/-- A reading of a value by where its time comes from. -/
inductive IsReading (value : Json) : TimeReading → Prop where
  /-- A number or a text of digits counts the time. -/
  | counted {x : Binary64} {seconds : Int} (hcount : value.count? = some x)
    (hseconds : epochSeconds? x = some seconds) : IsReading value (.universal seconds)
  | zoned {cs : List Char} {seconds : Int} (hzoned : DateText.readZoned cs = some seconds) :
    IsReading value (.universal seconds)
  | naive {cs : List Char} {time : LocalTime} (hnaive : DateText.readNaive cs = some time) :
    IsReading value (.naive time)
  | absent : IsReading value .none

theorem isReading_ofNumber {value : Json} {x : Binary64} (h : value.count? = some x) :
    IsReading value (ofNumber x) := by
  rw [ofNumber]
  cases hseconds : epochSeconds? x with
  | some seconds => exact .counted h hseconds
  | none => exact .absent

theorem isReading_ofJson (value : Json) : IsReading value (ofJson value) := by
  cases value with
  | number n => exact isReading_ofNumber rfl
  | string s =>
    rw [ofJson, ofText]
    split_ifs with hdigits
    · exact isReading_ofNumber (if_pos hdigits)
    · cases hzoned : DateText.readZoned (Text.trimChars s.toList) with
      | some seconds => exact .zoned hzoned
      | none =>
        cases hnaive : DateText.readNaive (Text.trimChars s.toList) with
        | some time => exact .naive hnaive
        | none => exact .absent
  | _ => exact .absent

/-- A zoned time stays representable under every offset. -/
theorem isRepresentable_of_readZoned {cs : List Char} {seconds offset : Int}
    (h : DateText.readZoned cs = some seconds) (hoffset : offset.natAbs < 86400) :
    (LocalTime.mk (seconds + offset)).isRepresentable = true := by
  obtain ⟨hlow, hhigh⟩ := DateText.readZoned_bounds h
  have hfirst : (CalendarDate.newYear CalendarDate.firstYear).toDays + 2 ≤
      (CalendarDate.newYear 0).toDays := by decide
  have hlast : (CalendarDate.newYear 10000).toDays + 2 ≤
      (CalendarDate.newYear (CalendarDate.lastYear + 1)).toDays := by decide
  rw [LocalTime.isRepresentable_iff]
  rw [LocalTime.daySeconds] at hlow hhigh ⊢
  dsimp only
  omega

theorem toLocal_universal {seconds offset : Int}
    (h : (LocalTime.mk (seconds + offset)).isRepresentable = true) :
    (universal seconds).toLocal offset = .ok ((universal seconds).localTime? offset) := by
  rw [toLocal, toLocalTime, if_pos h, localTime?, if_pos h]
  rfl

theorem toLocal_of_isShiftedOut {value : Json} {offset : Int} (h : value.IsShiftedOut offset) :
    (ofJson value).toLocal offset = .error .timeOutOfRange := by
  obtain ⟨x, seconds, hcount, hseconds, hout⟩ := h
  rw [ofJson_of_count? hcount, ofNumber_eq_universal_iff.mpr hseconds, toLocal, toLocalTime,
    if_neg (Bool.eq_false_iff.mp hout)]
  rfl

/-- A reading has a local time, if it has any that is representable, unless it is shifted out. -/
theorem toLocal_of_not_isShiftedOut {value : Json} {offset : Int} (hoffset : offset.natAbs < 86400)
    (h : ¬ value.IsShiftedOut offset) :
    (ofJson value).toLocal offset = .ok (value.localTime? offset) := by
  have hreading := isReading_ofJson value
  rw [Json.localTime?]
  generalize ofJson value = reading at hreading ⊢
  cases hreading with
  | counted hcount hseconds =>
    apply toLocal_universal
    by_contra hout
    exact h ⟨_, _, hcount, hseconds, Bool.eq_false_iff.mpr hout⟩
  | zoned hzoned => exact toLocal_universal (isRepresentable_of_readZoned hzoned hoffset)
  | naive hnaive => rfl
  | absent => rfl

end TimeReading

namespace Json

/-- The year of the local time of a value is one of the representable years. -/
theorem year_of_localTime? {value : Json} {offset : Int} {time : LocalTime}
    (h : value.localTime? offset = some time) :
    CalendarDate.firstYear ≤ time.date.year ∧ time.date.year ≤ CalendarDate.lastYear := by
  have hreading := TimeReading.isReading_ofJson value
  rw [localTime?] at h
  rw [← LocalTime.isRepresentable_iff_year]
  generalize TimeReading.ofJson value = reading at h hreading
  cases reading with
  | none => cases h
  | naive naive =>
    cases h
    cases hreading with
    | naive hnaive => exact DateText.isRepresentable_of_readNaive hnaive
  | universal seconds =>
    rw [TimeReading.localTime?, Option.ite_none_right_eq_some, Option.some.injEq] at h
    obtain ⟨hrange, rfl⟩ := h
    exact hrange

/-- Only an offset shifts a time out, and only one that is less than a day from an end. -/
theorem IsShiftedOut.near_end {value : Json} {offset : Int} (h : value.IsShiftedOut offset)
    (hoffset : offset.natAbs < 86400) :
    offset ≠ 0 ∧ ∃ x seconds, value.count? = some x ∧ epochSeconds? x = some seconds ∧
      (seconds < LocalTime.first + 86400 ∨ LocalTime.limit - 86400 ≤ seconds) := by
  obtain ⟨x, seconds, hcount, hseconds, hout⟩ := h
  have hrange := isRepresentable_of_epochSeconds? hseconds
  rw [LocalTime.isRepresentable, Bool.and_eq_true, decide_eq_true_eq, decide_eq_true_eq] at hrange
  rw [LocalTime.isRepresentable, Bool.and_eq_false_iff, decide_eq_false_iff_not,
    decide_eq_false_iff_not] at hout
  dsimp only at hrange hout
  refine ⟨by omega, x, seconds, hcount, hseconds, by omega⟩

theorem ne_empty_of_count? {s : String} {x : Binary64} (h : (Json.string s).count? = some x) :
    s ≠ "" := by
  rintro rfl
  cases h

/-- The start of 1970 is not shifted out, so that a value that is shifted out counts as true. -/
theorem IsShiftedOut.isTruthy {value : Json} {offset : Int} (h : value.IsShiftedOut offset)
    (hoffset : offset.natAbs < 86400) : value.isTruthy = true := by
  obtain ⟨-, x, seconds, hcount, hseconds, hend⟩ := h.near_end hoffset
  cases value with
  | number n =>
    cases hcount
    rw [Json.isTruthy, Bool.and_eq_true, Bool.not_eq_true', Bool.not_eq_true']
    constructor
    · apply Bool.eq_false_iff.mpr
      intro hzero
      rw [epochSeconds?_of_isZero hzero, Option.some.injEq] at hseconds
      subst hseconds
      revert hend
      decide
    · exact isNaN_of_epochSeconds? hseconds
  | string s => exact decide_eq_true (ne_empty_of_count? hcount)
  | _ => cases hcount

theorem IsShiftedOut.isBlank {value : Json} {offset : Int} (h : value.IsShiftedOut offset) :
    isBlank (some value) = false := by
  obtain ⟨x, -, hcount, -⟩ := h
  cases value with
  | number n => rfl
  | string s => exact decide_eq_false (ne_empty_of_count? hcount)
  | _ => cases hcount

end Json

/-! ## Formatters -/

/-- A formatter of dates or times. -/
def FormatterSpec.IsTime (spec : FormatterSpec) : Prop :=
  spec.kind = .date ∨ spec.kind = .datetime

/-- The pattern that a formatter of times writes a time by. -/
def FormatterSpec.pattern (spec : FormatterSpec) : String :=
  spec.params.getD (if spec.kind = .date then "YYYY-MM-DD" else "YYYY-MM-DD HH:mm:ss")

namespace Formatter

/-- A formatter of times is to show a value that the offset shifts out of the representable times. -/
def ShiftsOut (f : Formatter) (value : Option Json) (spec : Option String) : Prop :=
  ∃ data format, value = some data ∧ spec.bind FormatterSpec.read? = some format ∧
    format.IsTime ∧ data.IsShiftedOut f.settings.offsetSeconds

theorem formatTime_of_isShiftedOut {f : Formatter} {value : Json} (pattern : String)
    (h : value.IsShiftedOut f.settings.offsetSeconds) :
    f.formatTime value pattern = .error .timeOutOfRange := by
  have htruthy := h.isTruthy f.settings.offsetSeconds_lt
  rw [formatTime, htruthy, TimeReading.toLocal_of_isShiftedOut h]
  rfl

/-- A time that is not shifted out is shown, or the placeholder if there is none. -/
theorem formatTime_of_not_isShiftedOut {f : Formatter} {value : Json} (pattern : String)
    (h : ¬ value.IsShiftedOut f.settings.offsetSeconds) :
    f.formatTime value pattern =
      .ok (match value.localTime? f.settings.offsetSeconds with
        | some time =>
          if value.isTruthy then .text (time.render f.settings.weekdayNames pattern)
          else f.placeholder
        | none => f.placeholder) := by
  rw [formatTime, TimeReading.toLocal_of_not_isShiftedOut f.settings.offsetSeconds_lt h]
  cases value.localTime? f.settings.offsetSeconds <;> cases value.isTruthy <;> rfl

theorem formatBy_eq_formatTime (f : Formatter) (value : Json) {spec : FormatterSpec}
    (h : spec.IsTime) : f.formatBy value spec = f.formatTime value spec.pattern := by
  rcases h with hdate | hdatetime
  · rw [formatBy, hdate, FormatterSpec.pattern, if_pos hdate]
  · rw [formatBy, hdatetime, FormatterSpec.pattern, if_neg (by rw [hdatetime]; decide)]

theorem formatBy_of_not_isTime (f : Formatter) (value : Json) {spec : FormatterSpec}
    (h : ¬ spec.IsTime) : ∃ shown, f.formatBy value spec = .ok shown := by
  rw [formatBy]
  cases hkind : spec.kind with
  | date => exact absurd (.inl hkind) h
  | datetime => exact absurd (.inr hkind) h
  | currency =>
    cases finiteNumber? value with
    | none => exact ⟨_, rfl⟩
    | some x =>
      dsimp only
      rw [groupThousands, decimalText_of_le (decimalPlaces_le _ (by decide))]
      exact ⟨_, rfl⟩
  | percent =>
    cases finiteNumber? value with
    | none => exact ⟨_, rfl⟩
    | some x =>
      dsimp only
      rw [percentText, decimalText_of_le (decimalPlaces_le _ (by decide))]
      exact ⟨_, rfl⟩
  | image => exact ⟨_, rfl⟩
  | custom =>
    cases spec.params.bind f.custom with
    | none => exact ⟨_, rfl⟩
    | some format => exact ⟨_, rfl⟩
  | unknown name => exact ⟨_, rfl⟩

theorem formatValue_of_shiftsOut {f : Formatter} {value : Option Json} {spec : Option String}
    (h : f.ShiftsOut value spec) : f.formatValue value spec = .error .timeOutOfRange := by
  obtain ⟨data, format, rfl, hspec, htime, hout⟩ := h
  rw [formatValue, if_neg (Bool.eq_false_iff.mp hout.isBlank), hspec]
  dsimp only
  rw [f.formatBy_eq_formatTime data htime, formatTime_of_isShiftedOut _ hout]

/-- A formatter of times shows the local time of a value or the placeholder. -/
theorem formatValue_of_isTime {f : Formatter} {data : Json} {spec : Option String}
    {format : FormatterSpec} (hspec : spec.bind FormatterSpec.read? = some format)
    (htime : format.IsTime) (h : ¬ f.ShiftsOut (some data) spec) :
    (∃ time, data.localTime? f.settings.offsetSeconds = some time ∧
        f.formatValue (some data) spec =
          .ok (.text (time.render f.settings.weekdayNames format.pattern))) ∨
      f.formatValue (some data) spec = .ok f.placeholder := by
  have hout : ¬ data.IsShiftedOut f.settings.offsetSeconds :=
    fun hout ↦ h ⟨data, format, rfl, hspec, htime, hout⟩
  rw [formatValue]
  split_ifs with hblank
  · exact .inr rfl
  · rw [hspec]
    dsimp only
    rw [f.formatBy_eq_formatTime data htime, formatTime_of_not_isShiftedOut _ hout]
    cases data.localTime? f.settings.offsetSeconds with
    | none => exact .inr rfl
    | some time =>
      dsimp only
      split_ifs with htruthy
      · exact .inl ⟨time, rfl, rfl⟩
      · exact .inr rfl

theorem formatValue_of_not_shiftsOut {f : Formatter} {value : Option Json} {spec : Option String}
    (h : ¬ f.ShiftsOut value spec) : ∃ shown, f.formatValue value spec = .ok shown := by
  cases value with
  | none => exact ⟨_, rfl⟩
  | some data =>
    cases hspec : spec.bind FormatterSpec.read? with
    | none =>
      rw [formatValue, hspec]
      split_ifs with hblank
      · exact ⟨_, rfl⟩
      · exact ⟨_, rfl⟩
    | some format =>
      by_cases htime : format.IsTime
      · rcases formatValue_of_isTime hspec htime h with ⟨time, -, hshown⟩ | hshown
        · exact ⟨_, hshown⟩
        · exact ⟨_, hshown⟩
      · rw [formatValue, hspec]
        split_ifs with hblank
        · exact ⟨_, rfl⟩
        · exact f.formatBy_of_not_isTime data htime

/--
Formatting shows something for every value, and under a formatter of times either the local time of
the value, whose year is representable, or the placeholder, unless the offset shifts the time that
the value counts out of the representable times. Then it fails; the offset is not zero and the time
is less than a day from an end.
-/
theorem formatValue_returns_unless_shiftsOut (f : Formatter) (value : Option Json)
    (spec : Option String) :
    (¬ f.ShiftsOut value spec →
      (∃ shown, f.formatValue value spec = .ok shown) ∧
        ∀ data format, value = some data → spec.bind FormatterSpec.read? = some format →
          format.IsTime →
            (∃ time pattern, data.localTime? f.settings.offsetSeconds = some time ∧
              CalendarDate.firstYear ≤ time.date.year ∧
                time.date.year ≤ CalendarDate.lastYear ∧
                  f.formatValue value spec =
                    .ok (.text (time.render f.settings.weekdayNames pattern))) ∨
              f.formatValue value spec = .ok f.placeholder) ∧
      (f.ShiftsOut value spec →
        f.formatValue value spec = .error .timeOutOfRange ∧ f.settings.offsetSeconds ≠ 0 ∧
          ∃ data x seconds, value = some data ∧ data.count? = some x ∧
            epochSeconds? x = some seconds ∧
              (seconds < LocalTime.first + 86400 ∨ LocalTime.limit - 86400 ≤ seconds)) := by
  constructor
  · intro h
    refine ⟨formatValue_of_not_shiftsOut h, ?_⟩
    rintro data format rfl hspec htime
    rcases formatValue_of_isTime hspec htime h with ⟨time, hlocal, hshown⟩ | hshown
    · obtain ⟨hfirst, hlast⟩ := Json.year_of_localTime? hlocal
      exact .inl ⟨time, format.pattern, hlocal, hfirst, hlast, hshown⟩
    · exact .inr hshown
  · intro h
    refine ⟨formatValue_of_shiftsOut h, ?_⟩
    obtain ⟨data, format, hvalue, -, -, hout⟩ := h
    obtain ⟨hoffset, x, seconds, hend⟩ := hout.near_end f.settings.offsetSeconds_lt
    exact ⟨hoffset, data, x, seconds, hvalue, hend⟩

/-- The first millisecond of the year 262143, which is not representable. -/
def yearTooLate : Json :=
  .number (.integer 8210266876800000 (by decide))

/-- A universal time that is not representable shows the placeholder. -/
theorem formatValue_yearTooLate :
    (ofSettings .default).formatValue (some yearTooLate) (some "date") = .ok (.text "--") := by
  have hnone : ∀ x ∈ yearTooLate.count?, epochSeconds? x = none := by decide +kernel
  have hout : ¬ (ofSettings .default).ShiftsOut (some yearTooLate) (some "date") := by
    rintro ⟨data, format, hdata, -, -, x, seconds, hcount, hseconds, -⟩
    cases hdata
    rw [hnone x hcount] at hseconds
    cases hseconds
  have hlocal : yearTooLate.localTime? (ofSettings .default).settings.offsetSeconds = none := by
    decide +kernel
  rcases ((formatValue_returns_unless_shiftsOut _ _ _).1 hout).2 yearTooLate ⟨.date, none⟩ rfl
    (by decide +kernel) (.inl rfl) with ⟨time, pattern, hsome, -⟩ | hshown
  · rw [hlocal] at hsome
    cases hsome
  · exact hshown

def firstMillisecond : Json :=
  .number (.integer (-8334601228800000) (by decide))

/-- An offset of one and a half hours to the west shifts the first representable time out. -/
theorem not_forall_formatValue_returns :
    ¬ ∀ (f : Formatter) (value : Option Json) (spec : Option String),
      ∃ shown, f.formatValue value spec = .ok shown := by
  intro h
  obtain ⟨shown, hshown⟩ := h (ofSettings { RenderSettings.default with utcOffsetMinutes := -90 })
    (some firstMillisecond) (some "datetime")
  have hfails : (ofSettings { RenderSettings.default with utcOffsetMinutes := -90 }).formatValue
      (some firstMillisecond) (some "datetime") = .error .timeOutOfRange := by
    decide +kernel
  rw [hfails] at hshown
  cases hshown

end Formatter

end FieldTags
