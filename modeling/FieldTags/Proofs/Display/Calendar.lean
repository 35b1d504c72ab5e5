import FieldTags.Display.DateText
import Mathlib.Data.Int.Basic

/-!
# Years of the calendar

The year of a day that is counted from the start of 1970 is found by a formula on the day of a cycle
of 400 years, whose years start in March. A day is in a year or a later one exactly if it is not
before the first of January of this year. From this the representable times are those of the
representable years, every time that fields stand for is representable, and a time is between the
first days of its year and of the next.
-/

namespace FieldTags

namespace CalendarDate

/-! ## A cycle of 400 years -/

/-- The number of days of a cycle before one of its years. -/
def daysBefore (year : Nat) : Nat :=
  365 * year + year / 4 - year / 100

/-- The year of the cycle that a day is in. -/
def yearOfCycle (day : Nat) : Nat :=
  (day - day / 1460 + day / 36524 - day / 146096) / 365

theorem daysBefore_add_le {a b : Nat} (h : a < b) : daysBefore a + 365 ≤ daysBefore b := by
  -- A century is counted in leap days, so that both quotients are monotone together.
  have hcentury (n : Nat) : n / 100 = n / 4 / 25 := by omega
  have hfour : a / 4 ≤ b / 4 := by omega
  rw [daysBefore, daysBefore, hcentury, hcentury]
  omega

theorem yearOfCycle_mono {a b : Nat} (h : a ≤ b) : yearOfCycle a ≤ yearOfCycle b := by
  have hfour : a - a / 1460 ≤ b - b / 1460 := by omega
  have hcentury : a / 36524 ≤ b / 36524 := Nat.div_le_div_right h
  have hcycle (day : Nat) : day / 146096 = day / 36524 / 4 := by omega
  rw [yearOfCycle, yearOfCycle, hcycle, hcycle]
  apply Nat.div_le_div_right
  generalize a / 36524 = p at *
  generalize b / 36524 = q at *
  omega

theorem yearOfCycle_lt {day : Nat} (h : day < 146097) : yearOfCycle day < 400 := by
  rw [yearOfCycle]
  omega

/-- The first day of a year is in the year. -/
theorem yearOfCycle_daysBefore {year : Nat} (h : year < 400) :
    yearOfCycle (daysBefore year) = year := by
  have hdef : daysBefore year = 365 * year + year / 4 - year / 100 := rfl
  have hfour : daysBefore year / 1460 = year / 4 := by omega
  have hcentury : daysBefore year / 36524 = year / 100 := by omega
  have hcycle : daysBefore year / 146096 = 0 := by omega
  rw [yearOfCycle, hfour, hcentury, hcycle]
  omega

/-- The day before a year is in an earlier year. -/
theorem yearOfCycle_daysBefore_sub_one {year : Nat} (hpos : 0 < year) (h : year < 400) :
    yearOfCycle (daysBefore year - 1) < year := by
  have hdef : daysBefore year = 365 * year + year / 4 - year / 100 := rfl
  have hfour : (daysBefore year - 1) / 1460 = year / 4 := by omega
  have hcentury : (daysBefore year - 1) / 36524 ≤ year / 100 := by omega
  have hcycle : (daysBefore year - 1) / 146096 = 0 := by omega
  rw [yearOfCycle, hfour, hcycle]
  omega

theorem le_yearOfCycle_iff {day year : Nat} (hyear : year < 400) :
    year ≤ yearOfCycle day ↔ daysBefore year ≤ day := by
  constructor
  · intro hle
    by_contra hlt
    have hpos : 0 < year := by
      by_contra hzero
      rw [Nat.eq_zero_of_not_pos hzero] at hlt
      exact hlt (Nat.zero_le _)
    have hearlier := yearOfCycle_daysBefore_sub_one hpos hyear
    have hmono : yearOfCycle day ≤ yearOfCycle (daysBefore year - 1) :=
      yearOfCycle_mono (by omega)
    omega
  · intro hle
    rw [← yearOfCycle_daysBefore hyear]
    exact yearOfCycle_mono hle

/-- A day is one of the days of its year. -/
theorem daysBefore_yearOfCycle {day : Nat} (h : day < 146097) :
    daysBefore (yearOfCycle day) ≤ day ∧ day < daysBefore (yearOfCycle day) + 366 := by
  have hlt : yearOfCycle day < 400 := yearOfCycle_lt h
  refine ⟨(le_yearOfCycle_iff hlt).mp (Nat.le_refl _), ?_⟩
  have hdef (year : Nat) : daysBefore year = 365 * year + year / 4 - year / 100 := rfl
  have hyear := hdef (yearOfCycle day)
  by_cases hlast : yearOfCycle day = 399
  · -- The last year of a cycle ends with the leap day of the cycle.
    rw [hlast] at hyear ⊢
    omega
  · have hnext := hdef (yearOfCycle day + 1)
    have hiff : yearOfCycle day + 1 ≤ yearOfCycle day ↔ daysBefore (yearOfCycle day + 1) ≤ day :=
      le_yearOfCycle_iff (by omega)
    omega

/-! ## Years that start in January -/

def newYear (year : Int) : CalendarDate := ⟨year, 1, 1⟩

theorem fdiv_400 (a : Int) : Int.fdiv a 400 = a / 400 :=
  Int.fdiv_eq_ediv_of_nonneg a (by decide)

theorem fdiv_100 (a : Int) : Int.fdiv a 100 = a / 100 :=
  Int.fdiv_eq_ediv_of_nonneg a (by decide)

theorem fdiv_4 (a : Int) : Int.fdiv a 4 = a / 4 :=
  Int.fdiv_eq_ediv_of_nonneg a (by decide)

/-- The number of days to the first of March of a year from that of the year 0. -/
def daysToMarch (year : Int) : Int :=
  146097 * (year / 400) + daysBefore (year % 400).toNat

theorem daysToMarch_add_le (year : Int) : daysToMarch (year - 1) + 365 ≤ daysToMarch year := by
  rw [daysToMarch, daysToMarch, daysBefore, daysBefore]
  omega

/-- A day is counted from the first of the last March. -/
theorem toDays_eq (d : CalendarDate) :
    d.toDays = daysToMarch (if d.month ≤ 2 then d.year - 1 else d.year) +
      ((153 * ((d.month + 9) % 12) + 2) / 5 + d.day - 1 : Nat) - epochDay := by
  simp only [toDays, daysToMarch, daysBefore, fdiv_400, fdiv_100, fdiv_4]
  generalize (if d.month ≤ 2 then d.year - 1 else d.year) = year
  omega

/-- The first of January is the day 306 of a year that starts in March. -/
theorem toDays_newYear (year : Int) :
    (newYear year).toDays = daysToMarch (year - 1) + 306 - epochDay := by
  simp [toDays_eq, newYear]

/-- The year of a day by the cycle that the day is in and the day of the cycle. -/
theorem year_ofDays {days cycle : Int} {day : Nat} (hday : day < 146097)
    (hdays : days = 146097 * cycle + day - epochDay) :
    (ofDays days).year = 400 * cycle + yearOfCycle day +
      if daysBefore (yearOfCycle day) + 306 ≤ day then 1 else 0 := by
  obtain ⟨hstart, hend⟩ := daysBefore_yearOfCycle hday
  have hcycle : Int.fdiv (days + epochDay) 146097 = cycle := by
    rw [Int.fdiv_eq_ediv_of_nonneg _ (by decide)]
    omega
  have hrest : (days + epochDay - cycle * 146097).toNat = day := by omega
  rw [ofDays]
  simp only [hcycle, hrest]
  rw [← yearOfCycle, ← daysBefore]
  split_ifs <;> omega

/-- A day is in a year or a later one exactly if it is not before the first day of the year. -/
theorem le_year_ofDays_iff {year days : Int} :
    year ≤ (ofDays days).year ↔ (newYear year).toDays ≤ days := by
  obtain ⟨cycle, hcycle⟩ : ∃ cycle, cycle = (days + epochDay) / 146097 := ⟨_, rfl⟩
  obtain ⟨day, hday⟩ : ∃ day, day = ((days + epochDay) % 146097).toNat := ⟨_, rfl⟩
  obtain ⟨first, hfirst⟩ : ∃ first, first = ((year - 1) % 400).toNat := ⟨_, rfl⟩
  have hlt : day < 146097 := by omega
  have hyear : yearOfCycle day < 400 := yearOfCycle_lt hlt
  obtain ⟨hstart, hend⟩ := daysBefore_yearOfCycle hlt
  have hlast : daysBefore first ≤ 145731 := by
    rw [daysBefore]
    omega
  have hdays : days = 146097 * cycle + day - epochDay := by omega
  rw [year_ofDays hlt hdays, toDays_newYear, daysToMarch, ← hfirst]
  -- The years of the two cycles are compared first, and the days only within one year.
  rcases Nat.lt_trichotomy first (yearOfCycle day) with hbefore | hsame | hafter
  · have hstep := daysBefore_add_le hbefore
    split_ifs <;> omega
  · rw [← hsame] at hstart hend hyear ⊢
    split_ifs <;> omega
  · have hstep := daysBefore_add_le hafter
    split_ifs <;> omega

theorem toDays_newYear_mono {a b : Int} (h : a ≤ b) : (newYear a).toDays ≤ (newYear b).toDays :=
  le_year_ofDays_iff.mp (Int.le_trans h (le_year_ofDays_iff.mpr (Int.le_refl _)))

theorem daysInMonth_le (year : Int) (month : Nat) : daysInMonth year month ≤ 31 := by
  rw [daysInMonth]
  split_ifs <;> omega

theorem daysInMonth_two_le (year : Int) : daysInMonth year 2 ≤ 29 := by
  rw [daysInMonth, if_pos rfl]
  split_ifs <;> omega

/-- A day of the calendar is between the first days of its year and of the next. -/
theorem toDays_bounds {d : CalendarDate} (h : d.isValid = true) :
    (newYear d.year).toDays ≤ d.toDays ∧ d.toDays < (newYear (d.year + 1)).toDays := by
  obtain ⟨year, month, day⟩ := d
  simp only [isValid, Bool.and_eq_true, decide_eq_true_eq] at h
  obtain ⟨⟨⟨⟨-, hmonth⟩, hmonth'⟩, hday⟩, hday'⟩ := h
  have hlong := daysInMonth_le year month
  have hstep := daysToMarch_add_le year
  rw [toDays_newYear, toDays_newYear, toDays_eq, Int.add_sub_cancel]
  dsimp only
  by_cases htwo : month = 2
  · -- February ends its year, and no other month is as short.
    have hshort := daysInMonth_two_le year
    subst htwo
    rw [if_pos (Nat.le_refl 2)]
    omega
  · split_ifs <;> omega

end CalendarDate

namespace LocalTime

/-- The representable times are those from the first day of the first year to the last of the
last. -/
theorem isRepresentable_iff {t : LocalTime} :
    t.isRepresentable = true ↔
      (CalendarDate.newYear CalendarDate.firstYear).toDays * daySeconds ≤ t.seconds ∧
        t.seconds < (CalendarDate.newYear (CalendarDate.lastYear + 1)).toDays * daySeconds := by
  rw [isRepresentable, Bool.and_eq_true, decide_eq_true_eq, decide_eq_true_eq]
  rfl

/-- A time is in a year or a later one exactly if it is not before the first day of the year. -/
theorem le_year_date_iff {t : LocalTime} {year : Int} :
    year ≤ t.date.year ↔ (CalendarDate.newYear year).toDays * daySeconds ≤ t.seconds := by
  rw [date, CalendarDate.le_year_ofDays_iff, dayNumber, daySeconds,
    Int.fdiv_eq_ediv_of_nonneg _ (by decide)]
  omega

/-- The representable times are those of the representable years. -/
theorem isRepresentable_iff_year {t : LocalTime} :
    t.isRepresentable = true ↔
      CalendarDate.firstYear ≤ t.date.year ∧ t.date.year ≤ CalendarDate.lastYear := by
  have hlast : t.date.year ≤ CalendarDate.lastYear ↔ ¬ CalendarDate.lastYear + 1 ≤ t.date.year := by
    omega
  rw [isRepresentable_iff, hlast, le_year_date_iff, le_year_date_iff, Int.not_le]

/-- Fields that stand for a time have a day of the calendar, an hour, a minute and a second. -/
theorem toLocal?_eq_some_iff {f : DateFields} {t : LocalTime} :
    f.toLocal? = some t ↔
      (f.date.isValid = true ∧ f.hour ≤ 23 ∧ f.minute ≤ 59 ∧ f.second ≤ 60) ∧
        ofFields f.date f.hour f.minute f.second = t := by
  rw [DateFields.toLocal?, Option.ite_none_right_eq_some, Option.some.injEq]
  simp only [Bool.and_eq_true, decide_eq_true_eq, and_assoc]

/-- The time that fields stand for is in the year of the fields. -/
theorem toLocal?_bounds {f : DateFields} {t : LocalTime} (h : f.toLocal? = some t) :
    (CalendarDate.newYear f.date.year).toDays * daySeconds ≤ t.seconds ∧
      t.seconds < (CalendarDate.newYear (f.date.year + 1)).toDays * daySeconds := by
  obtain ⟨⟨hdate, hhour, hminute, -⟩, rfl⟩ := toLocal?_eq_some_iff.mp h
  obtain ⟨hfirst, hlast⟩ := CalendarDate.toDays_bounds hdate
  simp only [ofFields, daySeconds]
  omega

/-- The time that fields stand for is representable. -/
theorem isRepresentable_of_toLocal? {f : DateFields} {t : LocalTime} (h : f.toLocal? = some t) :
    t.isRepresentable = true := by
  obtain ⟨hfirst, hlast⟩ := toLocal?_bounds h
  have hdate := (toLocal?_eq_some_iff.mp h).1.1
  simp only [CalendarDate.isValid, Bool.and_eq_true, decide_eq_true_eq] at hdate
  have hlow := CalendarDate.toDays_newYear_mono (a := CalendarDate.firstYear)
    (b := f.date.year) (by omega)
  have hhigh := CalendarDate.toDays_newYear_mono (a := f.date.year + 1)
    (b := CalendarDate.lastYear + 1) (by omega)
  rw [isRepresentable_iff]
  rw [daySeconds] at hfirst hlast ⊢
  omega

end LocalTime

end FieldTags
