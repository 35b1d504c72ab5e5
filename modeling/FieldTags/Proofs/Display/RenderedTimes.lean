import FieldTags.Proofs.Display.CalendarDays
import FieldTags.Proofs.Display.EpochUnits
import FieldTags.Proofs.Display.Numerals
import FieldTags.Proofs.Number.DecimalLiteral

/-!
# Rendered times

A time that is written with its date, hour, minute and second is read as the same time again, as long
as its year has at most four digits and no sign. The text is too short for a zoned time, so that it
has no offset and the first format of naive times reads it. So what a formatter of times shows by its
own pattern stays as it is if it is formatted again, under every settings.
-/

namespace FieldTags

namespace DateText

open Literal

/-! ## Digits of numbers -/

/-- A number in at most so many decimal digits. -/
structure IsDigitsOf (n most : Nat) (cs : List Char) : Prop where
  isDigits : IsDigits cs
  length_le : cs.length ≤ most
  digitsValue : Decimal.digitsValue cs = n

/-- A number that is short enough has exactly so many digits with the zeros in front of it. -/
theorem isDigitsOf_padded {width n : Nat} (hpos : 0 < width) (h : n < 10 ^ width) :
    IsDigitsOf n width (Text.padded width n).toList := by
  have hlength : (Nat.toDigits 10 n).length ≤ width := (Decimal.digitCount_le_iff hpos).mpr h
  rw [Text.padded, String.toList_ofList]
  refine ⟨⟨?_, ?_⟩, ?_, ?_⟩
  · exact List.append_ne_nil_of_right_ne_nil _ Nat.toDigits_ne_nil
  · intro c hc
    exact NumberLayout.isDigit_of_mem (List.mem_append.mp hc).symm
  · rw [List.length_append, List.length_replicate]
    omega
  · rw [Decimal.digitsValue_zeros_append, Decimal.digitsValue_toDigits]

/-- A year of at most four digits. -/
theorem isDigitsOf_year {year : Int} (hlow : 0 ≤ year) (hhigh : year ≤ 9999) :
    IsDigitsOf year.toNat 4 (toString year).toList := by
  obtain ⟨n, rfl⟩ := Int.eq_ofNat_of_zero_le hlow
  have htext : (toString (n : Int)).toList = Nat.toDigits 10 n := by
    have hnat : toString (n : Int) = toString n := rfl
    rw [hnat, Nat.toString_eq_ofList_toDigits, String.toList_ofList]
  rw [htext]
  refine ⟨⟨Nat.toDigits_ne_nil, ?_⟩, ?_, ?_⟩
  · exact fun c hc ↦ Nat.isDigit_of_mem_toDigits (by decide) (by decide) hc
  · exact (Decimal.digitCount_le_iff (by decide)).mpr (by omega)
  · exact Decimal.digitsValue_toDigits n

namespace IsDigitsOf

variable {n most : Nat} {cs rest : List Char}

theorem head? (h : IsDigitsOf n most cs) (rest : List Char) :
    ∀ c ∈ (cs ++ rest).head?, c.isDigit = true := by
  intro c hc
  rw [List.head?_append_of_ne_nil _ h.isDigits.1] at hc
  exact h.isDigits.2 c (List.mem_of_mem_head? hc)

/-- Nothing is skipped in front of digits. -/
theorem dropWhile_isBlank (h : IsDigitsOf n most cs) :
    (cs ++ rest).dropWhile Text.isBlank = cs ++ rest := by
  rw [Text.dropWhile_isBlank_eq_self_iff]
  exact fun c hc ↦ isBlank_of_isDigit (h.head? rest c hc)

theorem readDigits (h : IsDigitsOf n most cs) (hrest : NoDigit rest) :
    readDigits 1 most (cs ++ rest) = some (n, rest) := by
  have htake : (cs ++ rest).take most = cs ++ rest.take (most - cs.length) := by
    rw [List.take_append, List.take_of_length_le h.length_le]
  have hhead : NoDigit (rest.take (most - cs.length)) := by
    intro c hc
    rw [List.head?_take] at hc
    split_ifs at hc
    · cases hc
    · exact hrest c hc
  have hrun : ((cs ++ rest).take most).takeWhile Char.isDigit = cs := by
    rw [htake]
    exact Text.takeWhile_append_of_head? h.isDigits.2 hhead
  have hpos : 1 ≤ cs.length := List.length_pos_iff.mpr h.isDigits.1
  rw [DateText.readDigits, hrun, if_pos hpos, h.digitsValue, List.drop_left]

/-- Digits are a year without a sign. -/
theorem readYear (h : IsDigitsOf n 4 cs) (hrest : NoDigit rest) :
    readYear (cs ++ rest) = some ((n : Int), rest) := by
  have hhead := h.head? rest
  have hread := h.readDigits hrest
  generalize cs ++ rest = text at hhead hread
  unfold DateText.readYear
  split
  · exact absurd (hhead '-' rfl) (by decide)
  · exact absurd (hhead '+' rfl) (by decide)
  · rw [hread]
    rfl

end IsDigitsOf

/-! ## Parts of a format -/

def twoDigitParts : List Part :=
  [.month, .day, .hour, .minute, .second]

/-- The fields with a number in the place of a part of two digits. -/
def Part.set (f : DateFields) (n : Nat) : Part → DateFields
  | .month => { f with date := { f.date with month := n } }
  | .day => { f with date := { f.date with day := n } }
  | .hour => { f with hour := n }
  | .minute => { f with minute := n }
  | .second => { f with second := n }
  | _ => f

theorem readPart_of_mem {part : Part} (hpart : part ∈ twoDigitParts) (f : DateFields)
    (cs : List Char) :
    readPart f cs part =
      (readDigits 1 2 (cs.dropWhile Text.isBlank)).map fun (n, rest) ↦ (part.set f n, rest) := by
  simp only [twoDigitParts, List.mem_cons, List.not_mem_nil, or_false] at hpart
  rcases hpart with rfl | rfl | rfl | rfl | rfl <;> rfl

section

variable {n : Nat} {cs rest : List Char} (f : DateFields) (parts : List Part)

theorem readParts_digits {part : Part} (hpart : part ∈ twoDigitParts) (h : IsDigitsOf n 2 cs)
    (hrest : NoDigit rest) :
    readParts f (part :: parts) (cs ++ rest) = readParts (part.set f n) parts rest := by
  rw [readParts, readPart_of_mem hpart, h.dropWhile_isBlank, h.readDigits hrest]
  rfl

theorem readParts_year (h : IsDigitsOf n 4 cs) (hrest : NoDigit rest) :
    readParts f (.year :: parts) (cs ++ rest) =
      readParts { f with date := { f.date with year := n } } parts rest := by
  rw [readParts, readPart, h.dropWhile_isBlank, h.readYear hrest]
  rfl

theorem readParts_char (c : Char) (rest : List Char) :
    readParts f (.char c :: parts) (c :: rest) = readParts f parts rest := by
  rw [readParts, readPart, readChar, if_pos rfl]
  rfl

theorem readParts_blank (h : IsDigitsOf n 2 cs) :
    readParts f (.blank :: parts) (' ' :: (cs ++ rest)) = readParts f parts (cs ++ rest) := by
  have hspace : Text.isBlank ' ' = true := rfl
  rw [readParts, readPart, List.dropWhile_cons_of_pos hspace, h.dropWhile_isBlank]

end

end DateText

namespace LocalTime

open DateText

/-! ## The text of a time -/

/-- The characters of a time with its date, hour, minute and second. -/
def chars (t : LocalTime) : List Char :=
  (toString t.date.year).toList ++ '-' :: ((Text.padded 2 t.date.month).toList ++
    '-' :: ((Text.padded 2 t.date.day).toList ++ ' ' :: ((Text.padded 2 t.hour).toList ++
      ':' :: ((Text.padded 2 t.minute).toList ++ ':' :: (Text.padded 2 t.second).toList))))

/-- The days of the week do not stand in the text. -/
theorem render_eq_ofList_chars (t : LocalTime) (weekdays : Vector String 7) :
    t.render weekdays "YYYY-MM-DD HH:mm:ss" = String.ofList t.chars := by
  have hpattern : "YYYY-MM-DD HH:mm:ss".toList = ['Y', 'Y', 'Y', 'Y', '-', 'M', 'M', '-', 'D', 'D',
      ' ', 'H', 'H', ':', 'm', 'm', ':', 's', 's'] := rfl
  rw [render, hpattern]
  simp [renderChars, DateToken.expand, chars]

/-- A time in a year of at most four digits and without a sign. -/
def HasPlainYear (t : LocalTime) : Prop :=
  0 ≤ t.date.year ∧ t.date.year ≤ 9999

namespace HasPlainYear

variable {t : LocalTime} (h : t.HasPlainYear)

include h

theorem isRepresentable : t.isRepresentable = true := by
  have hfirst : CalendarDate.firstYear ≤ 0 := by decide
  have hlast : 9999 ≤ CalendarDate.lastYear := by decide
  exact isRepresentable_iff_year.mpr ⟨Int.le_trans hfirst h.1, Int.le_trans h.2 hlast⟩

theorem year : IsDigitsOf t.date.year.toNat 4 (toString t.date.year).toList :=
  isDigitsOf_year h.1 h.2

/-- Every field but the year has two digits. -/
theorem two_digits :
    IsDigitsOf t.date.month 2 (Text.padded 2 t.date.month).toList ∧
      IsDigitsOf t.date.day 2 (Text.padded 2 t.date.day).toList ∧
        IsDigitsOf t.hour 2 (Text.padded 2 t.hour).toList ∧
          IsDigitsOf t.minute 2 (Text.padded 2 t.minute).toList ∧
            IsDigitsOf t.second 2 (Text.padded 2 t.second).toList := by
  have hdate : t.date.isValid = true :=
    (toLocal?_eq_some_iff.mp (toLocal?_fields h.isRepresentable)).1.1
  have hlong := CalendarDate.daysInMonth_le t.date.year t.date.month
  have hlt := t.secondOfDay_lt
  simp only [CalendarDate.isValid, Bool.and_eq_true, decide_eq_true_eq] at hdate
  have htwo {n : Nat} (hn : n < 10 ^ 2) : IsDigitsOf n 2 (Text.padded 2 n).toList :=
    isDigitsOf_padded (by decide) hn
  refine ⟨htwo ?_, htwo ?_, htwo ?_, htwo ?_, htwo ?_⟩
  · omega
  · omega
  · rw [hour]
    omega
  · rw [minute]
    omega
  · rw [second]
    omega

theorem length_chars : t.chars.length ≤ 19 := by
  have hyear := h.year.length_le
  obtain ⟨hmonth, hday, hhour, hminute, hsecond⟩ := h.two_digits
  have := hmonth.length_le
  have := hday.length_le
  have := hhour.length_le
  have := hminute.length_le
  have := hsecond.length_le
  simp only [chars, List.length_append, List.length_cons]
  omega

/-- The text begins and ends with a digit. -/
theorem trimChars_chars : Text.trimChars t.chars = t.chars := by
  obtain ⟨-, -, -, -, hsecond⟩ := h.two_digits
  have hend : t.chars.getLast? = (Text.padded 2 t.second).toList.getLast? := by
    simp only [chars, List.getLast?_append_cons, List.getLast?_cons, Option.getD_some,
      List.getLast?_eq_some_getLast hsecond.isDigits.1]
  rw [Text.trimChars_eq_self_iff, hend]
  constructor
  · intro c hc
    exact Literal.isBlank_of_isDigit (h.year.head? _ c hc)
  · intro c hc
    exact Literal.isBlank_of_isDigit (hsecond.isDigits.2 c (List.mem_of_mem_getLast? hc))

/-! ## Reading the text -/

/-- The text is too short for a zoned time. -/
theorem readZoned_chars : readZoned t.chars = none := by
  by_contra hsome
  obtain ⟨seconds, hseconds⟩ := Option.ne_none_iff_exists'.mp hsome
  obtain ⟨-, -, -, -, -, -, -, -, hlong⟩ := exists_of_readZoned hseconds
  have hshort := h.length_chars
  omega

/-- The first format reads the fields of the time. -/
theorem readParts_chars :
    readParts .start (dayParts '-' ++ [.blank] ++ secondParts) t.chars = some t.fields := by
  obtain ⟨hmonth, hday, hhour, hminute, hsecond⟩ := h.two_digits
  -- Every field ends at the character behind it.
  have hdash (rest : List Char) : Literal.NoDigit ('-' :: rest) := Literal.noDigit_cons rfl rest
  have hspace (rest : List Char) : Literal.NoDigit (' ' :: rest) := Literal.noDigit_cons rfl rest
  have hcolon (rest : List Char) : Literal.NoDigit (':' :: rest) := Literal.noDigit_cons rfl rest
  have hyear : (t.date.year.toNat : Int) = t.date.year := Int.toNat_of_nonneg h.1
  rw [chars, ← List.append_nil (Text.padded 2 t.second).toList]
  simp only [dayParts, secondParts, minuteParts, List.cons_append, List.nil_append]
  rw [readParts_year _ _ h.year (hdash _), readParts_char,
    readParts_digits _ _ (by decide) hmonth (hdash _), readParts_char,
    readParts_digits _ _ (by decide) hday (hspace _), readParts_blank _ _ hhour,
    readParts_digits _ _ (by decide) hhour (hcolon _), readParts_char,
    readParts_digits _ _ (by decide) hminute (hcolon _), readParts_char,
    readParts_digits _ _ (by decide) hsecond Literal.noDigit_nil, hyear]
  rfl

theorem readNaive_chars : readNaive t.chars = some t := by
  have hread : readAs (dayParts '-' ++ [.blank] ++ secondParts) t.chars = some t := by
    rw [readAs, h.readParts_chars]
    exact toLocal?_fields h.isRepresentable
  rw [readNaive, formats, List.findSome?_cons, hread]

theorem ofText_chars : TimeReading.ofText (String.ofList t.chars) = .naive t := by
  have hmark : ¬ (t.chars ≠ [] && t.chars.all Char.isDigit) = true := by
    rw [Bool.and_eq_true, not_and_or]
    right
    intro hdigits
    have hmem : '-' ∈ t.chars := List.mem_append_right _ List.mem_cons_self
    exact absurd (List.all_eq_true.mp hdigits '-' hmem) (by decide)
  rw [TimeReading.ofText, String.toList_ofList, h.trimChars_chars, if_neg hmark, h.readZoned_chars,
    h.readNaive_chars]

end HasPlainYear

end LocalTime

namespace Formatter

/-- What a formatter of times shows, other than the placeholder, is the text of a local time. -/
theorem exists_localTime_of_formatValue {f : Formatter} {value : Json} {spec : Option String}
    {format : FormatterSpec} {text : String}
    (hspec : spec.bind FormatterSpec.read? = some format) (htime : format.IsTime)
    (hshown : f.formatValue (some value) spec = .ok (.text text))
    (htext : text ≠ f.settings.placeholder) :
    ∃ time, value.localTime? f.settings.offsetSeconds = some time ∧
      time.render f.settings.weekdayNames format.pattern = text := by
  have hout : ¬ f.ShiftsOut (some value) spec := by
    intro hout
    rw [formatValue_of_shiftsOut hout] at hshown
    cases hshown
  rcases formatValue_of_isTime hspec htime hout with ⟨time, hlocal, hrender⟩ | hplaceholder
  · rw [hshown] at hrender
    cases hrender
    exact ⟨time, hlocal, rfl⟩
  · rw [hshown] at hplaceholder
    cases hplaceholder
    exact absurd rfl htext

/-- The text of a time stays as it is, under every settings. -/
theorem formatValue_chars (f : Formatter) {spec : Option String} {time : LocalTime}
    (hspec : spec.bind FormatterSpec.read? = some ⟨.datetime, none⟩) (h : time.HasPlainYear) :
    f.formatValue (some (.string (String.ofList time.chars))) spec =
      .ok (.text (String.ofList time.chars)) := by
  have hne : String.ofList time.chars ≠ "" := by
    rw [ne_eq, String.ofList_eq_empty_iff]
    exact List.append_ne_nil_of_left_ne_nil h.year.isDigits.1 _
  have hblank : Json.isBlank (some (.string (String.ofList time.chars))) = false :=
    decide_eq_false hne
  have htruthy : Json.isTruthy (.string (String.ofList time.chars)) = true := decide_eq_true hne
  rw [formatValue, if_neg (Bool.eq_false_iff.mp hblank), hspec]
  dsimp only
  rw [f.formatBy_eq_formatTime _ (.inr rfl), formatTime, htruthy, TimeReading.ofJson,
    h.ofText_chars, TimeReading.toLocal, ← time.render_eq_ofList_chars f.settings.weekdayNames]
  rfl

/--
A time that a formatter of times shows by its own pattern stays as it is if it is formatted again,
under the same settings as under all others.
-/
theorem formatValue_rendered_again {f : Formatter} {value : Json} {spec : Option String}
    {text : String} (hspec : spec.bind FormatterSpec.read? = some ⟨.datetime, none⟩)
    (hshown : f.formatValue (some value) spec = .ok (.text text))
    (htext : text ≠ f.settings.placeholder)
    (hyear : ∀ time ∈ value.localTime? f.settings.offsetSeconds, time.HasPlainYear)
    (g : Formatter) : g.formatValue (some (.string text)) spec = .ok (.text text) := by
  obtain ⟨time, hlocal, hrender⟩ := exists_localTime_of_formatValue hspec (.inr rfl) hshown htext
  have hchars : String.ofList time.chars = text :=
    (time.render_eq_ofList_chars f.settings.weekdayNames).symm.trans hrender
  rw [← hchars]
  exact g.formatValue_chars hspec (hyear time hlocal)

def eightHoursEast : Formatter :=
  ofSettings { RenderSettings.default with utcOffsetMinutes := 480 }

/-- A zoned time is shifted into the next month once, and its text not any more. -/
theorem formatValue_shifted_again :
    eightHoursEast.formatValue (some (.string "2024-02-29T20:30:00Z")) (some "datetime") =
        .ok (.text "2024-03-01 04:30:00") ∧
      eightHoursEast.formatValue (some (.string "2024-03-01 04:30:00")) (some "datetime") =
        .ok (.text "2024-03-01 04:30:00") := by
  have hspec : (some "datetime").bind FormatterSpec.read? = some ⟨.datetime, none⟩ := by
    decide +kernel
  have hshown : eightHoursEast.formatValue (some (.string "2024-02-29T20:30:00Z"))
      (some "datetime") = .ok (.text "2024-03-01 04:30:00") := by
    decide +kernel
  have hyear : ∀ time ∈ (Json.string "2024-02-29T20:30:00Z").localTime?
      eightHoursEast.settings.offsetSeconds, time.HasPlainYear := by
    unfold LocalTime.HasPlainYear
    decide +kernel
  exact ⟨hshown, formatValue_rendered_again hspec hshown (by decide) hyear eightHoursEast⟩

end Formatter

end FieldTags
