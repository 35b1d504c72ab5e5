import FieldTags.Proofs.Display.Calendar
import Mathlib.Tactic.IntervalCases

/-!
# Dates of days

Every day has a date of the calendar, and counting back from this date gives the day again. So a time
is the time that its own date, hour, minute and second stand for, if it is representable.
-/

namespace FieldTags

namespace CalendarDate

/-! ## Years that start in March -/

/-- The day of a year that starts in March. -/
def ofMarchDay (year : Int) (day : Nat) : CalendarDate :=
  let marchMonth := (5 * day + 2) / 153
  let month := if marchMonth < 10 then marchMonth + 3 else marchMonth - 9
  ⟨if month ≤ 2 then year + 1 else year, month, day - (153 * marchMonth + 2) / 5 + 1⟩

/-- A day of a year has a month and a day of the month. Only a leap year has a day 365. -/
theorem ofMarchDay_fields (year : Int) {day : Nat} (hday : day < 366)
    (hleap : day = 365 → isLeapYear (year + 1) = true) :
    1 ≤ (ofMarchDay year day).month ∧ (ofMarchDay year day).month ≤ 12 ∧
      1 ≤ (ofMarchDay year day).day ∧
        (ofMarchDay year day).day ≤
          daysInMonth (ofMarchDay year day).year (ofMarchDay year day).month := by
  obtain ⟨month, hmonth⟩ : ∃ month, month = (5 * day + 2) / 153 := ⟨_, rfl⟩
  have hle : month ≤ 11 := by omega
  rw [ofMarchDay]
  simp only [← hmonth]
  by_cases hlast : month = 11
  · -- February ends the year, so that its length is that of the rest of the year.
    subst hlast
    simp only [daysInMonth]
    by_cases hlong : day = 365
    · simp [hleap hlong, hlong]
    · simp
      split_ifs <;> omega
  · interval_cases month <;> simp [daysInMonth] <;> omega

theorem toDays_ofMarchDay {year : Int} {day : Nat} (hday : day < 366) :
    (ofMarchDay year day).toDays = daysToMarch year + day - epochDay := by
  obtain ⟨month, hmonth⟩ : ∃ month, month = (5 * day + 2) / 153 := ⟨_, rfl⟩
  rw [toDays_eq, ofMarchDay]
  simp only [← hmonth]
  have hback : ((if month < 10 then month + 3 else month - 9) + 9) % 12 = month := by
    split_ifs <;> omega
  have hyear : (if (if month < 10 then month + 3 else month - 9) ≤ 2 then
      (if (if month < 10 then month + 3 else month - 9) ≤ 2 then year + 1 else year) - 1
      else if (if month < 10 then month + 3 else month - 9) ≤ 2 then year + 1 else year) = year := by
    split_ifs <;> omega
  rw [hback, hyear]
  omega

/-! ## Days of a cycle -/

/-- The last day of a year of a cycle is a leap day, or the year has one day less. -/
theorem isLeapYear_of_day {day : Nat} (hday : day < 146097)
    (hlast : day - daysBefore (yearOfCycle day) = 365) (cycle : Int) :
    isLeapYear (400 * cycle + yearOfCycle day + 1) = true := by
  have hlt : yearOfCycle day < 400 := yearOfCycle_lt hday
  have hdef (year : Nat) : daysBefore year = 365 * year + year / 4 - year / 100 := rfl
  have hyear := hdef (yearOfCycle day)
  simp only [isLeapYear, Bool.and_eq_true, Bool.or_eq_true, decide_eq_true_eq]
  by_cases hend : yearOfCycle day = 399
  · rw [hend]
    omega
  · have hnext := hdef (yearOfCycle day + 1)
    have hiff : yearOfCycle day + 1 ≤ yearOfCycle day ↔ daysBefore (yearOfCycle day + 1) ≤ day :=
      le_yearOfCycle_iff (by omega)
    -- The next year starts a day later than a common year, which only a leap day explains.
    have hlonger : yearOfCycle day / 4 - yearOfCycle day / 100 <
        (yearOfCycle day + 1) / 4 - (yearOfCycle day + 1) / 100 := by omega
    have hfour : (yearOfCycle day + 1) % 4 = 0 := by
      by_contra hcommon
      have hsame : (yearOfCycle day + 1) / 4 = yearOfCycle day / 4 := by omega
      have hcentury : yearOfCycle day / 100 ≤ (yearOfCycle day + 1) / 100 := by omega
      omega
    have hhundred : (yearOfCycle day + 1) % 100 ≠ 0 := by
      intro hcentury
      have hfours : (yearOfCycle day + 1) / 4 ≤ yearOfCycle day / 4 + 1 := by omega
      have hnew : (yearOfCycle day + 1) / 100 = yearOfCycle day / 100 + 1 := by omega
      omega
    omega

theorem daysToMarch_of_cycle {year : Nat} (h : year < 400) (cycle : Int) :
    daysToMarch (400 * cycle + year) = 146097 * cycle + daysBefore year := by
  have hcycle : (400 * cycle + year) / 400 = cycle := by omega
  have hyear : ((400 * cycle + year) % 400).toNat = year := by omega
  rw [daysToMarch, hcycle, hyear]

/-- A day is a day of the year of its cycle. -/
theorem ofDays_eq {days cycle : Int} {day : Nat} (hday : day < 146097)
    (hdays : days = 146097 * cycle + day - epochDay) :
    ofDays days =
      ofMarchDay (400 * cycle + yearOfCycle day) (day - daysBefore (yearOfCycle day)) := by
  have hcycle : Int.fdiv (days + epochDay) 146097 = cycle := by
    rw [Int.fdiv_eq_ediv_of_nonneg _ (by decide)]
    omega
  have hrest : (days + epochDay - cycle * 146097).toNat = day := by omega
  rw [ofDays]
  simp only [hcycle, hrest]
  rw [← yearOfCycle, ← daysBefore, Int.mul_comm cycle 400]
  rfl

/-- The day of a cycle. -/
theorem exists_cycle (days : Int) :
    ∃ (cycle : Int) (day : Nat), day < 146097 ∧ days = 146097 * cycle + day - epochDay := by
  refine ⟨(days + epochDay) / 146097, ((days + epochDay) % 146097).toNat, ?_, ?_⟩ <;> omega

/-! ## Dates -/

/-- Counting back from the date of a day gives the day. -/
theorem toDays_ofDays (days : Int) : (ofDays days).toDays = days := by
  obtain ⟨cycle, day, hday, hdays⟩ := exists_cycle days
  obtain ⟨hstart, hend⟩ := daysBefore_yearOfCycle hday
  rw [ofDays_eq hday hdays, toDays_ofMarchDay (by omega), daysToMarch_of_cycle (yearOfCycle_lt hday),
    hdays]
  omega

/-- The date of a day has a month and a day of this month. -/
theorem ofDays_fields (days : Int) :
    1 ≤ (ofDays days).month ∧ (ofDays days).month ≤ 12 ∧ 1 ≤ (ofDays days).day ∧
      (ofDays days).day ≤ daysInMonth (ofDays days).year (ofDays days).month := by
  obtain ⟨cycle, day, hday, hdays⟩ := exists_cycle days
  obtain ⟨hstart, hend⟩ := daysBefore_yearOfCycle hday
  have hyearDay : day - daysBefore (yearOfCycle day) < 366 := by omega
  rw [ofDays_eq hday hdays]
  exact ofMarchDay_fields _ hyearDay fun hlong ↦ isLeapYear_of_day hday hlong cycle

/-- The date of a day is one of the calendar if its year is representable. -/
theorem isValid_ofDays {days : Int} (hfirst : firstYear ≤ (ofDays days).year)
    (hlast : (ofDays days).year ≤ lastYear) : (ofDays days).isValid = true := by
  obtain ⟨hmonth, hyear, hday, hlength⟩ := ofDays_fields days
  simp only [isValid, Bool.and_eq_true, decide_eq_true_eq]
  exact ⟨⟨⟨⟨⟨hfirst, hlast⟩, hmonth⟩, hyear⟩, hday⟩, hlength⟩

end CalendarDate

/-! ## Times -/

namespace LocalTime

theorem secondOfDay_lt (t : LocalTime) : t.secondOfDay < 86400 := by
  rw [secondOfDay, daySeconds, Int.fmod_eq_emod_of_nonneg _ (by decide)]
  omega

/-- A time is so many seconds behind the start of its day. -/
theorem seconds_eq (t : LocalTime) : t.seconds = t.dayNumber * daySeconds + t.secondOfDay := by
  rw [dayNumber, secondOfDay, daySeconds, Int.fdiv_eq_ediv_of_nonneg _ (by decide),
    Int.fmod_eq_emod_of_nonneg _ (by decide)]
  omega

def fields (t : LocalTime) : DateFields :=
  ⟨t.date, t.hour, t.minute, t.second⟩

/-- A representable time is the time that its fields stand for. -/
theorem toLocal?_fields {t : LocalTime} (h : t.isRepresentable = true) :
    t.fields.toLocal? = some t := by
  obtain ⟨hfirst, hlast⟩ := isRepresentable_iff_year.mp h
  have hlt := t.secondOfDay_lt
  rw [toLocal?_eq_some_iff]
  simp only [fields, hour, minute, second]
  refine ⟨⟨CalendarDate.isValid_ofDays hfirst hlast, by omega, by omega, by omega⟩, ?_⟩
  have hseconds : (ofFields t.date (t.secondOfDay / 3600) (t.secondOfDay / 60 % 60)
      (t.secondOfDay % 60)).seconds = t.seconds := by
    rw [t.seconds_eq, ofFields, date, CalendarDate.toDays_ofDays]
    dsimp only
    omega
  exact congrArg LocalTime.mk hseconds

end LocalTime

end FieldTags
