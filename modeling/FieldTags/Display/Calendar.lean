import FieldTags.Text.Digits

/-!
# The calendar

Local times are counted in whole seconds from the start of the year 1970 in the Gregorian calendar,
which is continued into the past and the future. Times are representable in the years from -262143
to 262142. Days are counted from the first of March of the year 0, so that a leap day is the last
day of a year that starts in March, and 400 years have 146097 days.
-/

namespace FieldTags

/-- A day of the calendar. -/
structure CalendarDate where
  year : Int
  /-- The month, from 1 on. -/
  month : Nat
  /-- The day of the month, from 1 on. -/
  day : Nat
  deriving DecidableEq

namespace CalendarDate

def isLeapYear (year : Int) : Bool :=
  year % 4 = 0 && (year % 100 ≠ 0 || year % 400 = 0)

def daysInMonth (year : Int) (month : Nat) : Nat :=
  if month = 2 then (if isLeapYear year then 29 else 28)
  else if month = 4 || month = 6 || month = 9 || month = 11 then 30
  else 31

def firstYear : Int := -262143

def lastYear : Int := 262142

/-- Whether the calendar has the day and its year is representable. -/
def isValid (d : CalendarDate) : Bool :=
  firstYear ≤ d.year && d.year ≤ lastYear && 1 ≤ d.month && d.month ≤ 12 && 1 ≤ d.day &&
    d.day ≤ daysInMonth d.year d.month

/-- The number of days from the first of March of the year 0 to the start of 1970. -/
def epochDay : Int := 719468

/-- The number of days from the start of 1970. -/
def toDays (d : CalendarDate) : Int :=
  let year := if d.month ≤ 2 then d.year - 1 else d.year
  let month := (d.month + 9) % 12
  let cycle := Int.fdiv year 400
  let yearOfCycle := year - cycle * 400
  let dayOfYear := (153 * month + 2) / 5 + d.day - 1
  cycle * 146097 + yearOfCycle * 365 + Int.fdiv yearOfCycle 4 - Int.fdiv yearOfCycle 100 +
    dayOfYear - epochDay

/-- The day that is a number of days after the start of 1970. -/
def ofDays (days : Int) : CalendarDate :=
  let shifted := days + epochDay
  let cycle := Int.fdiv shifted 146097
  let dayOfCycle := (shifted - cycle * 146097).toNat
  let yearOfCycle :=
    (dayOfCycle - dayOfCycle / 1460 + dayOfCycle / 36524 - dayOfCycle / 146096) / 365
  let dayOfYear := dayOfCycle - (365 * yearOfCycle + yearOfCycle / 4 - yearOfCycle / 100)
  let marchMonth := (5 * dayOfYear + 2) / 153
  let day := dayOfYear - (153 * marchMonth + 2) / 5 + 1
  let month := if marchMonth < 10 then marchMonth + 3 else marchMonth - 9
  let year := cycle * 400 + yearOfCycle
  ⟨if month ≤ 2 then year + 1 else year, month, day⟩

end CalendarDate

/-- A local time in whole seconds from the start of 1970. -/
structure LocalTime where
  seconds : Int
  deriving DecidableEq

namespace LocalTime

def daySeconds : Int := 86400

def first : Int :=
  (CalendarDate.mk CalendarDate.firstYear 1 1).toDays * daySeconds

/-- The first second that is not representable any more. -/
def limit : Int :=
  (CalendarDate.mk (CalendarDate.lastYear + 1) 1 1).toDays * daySeconds

def isRepresentable (t : LocalTime) : Bool :=
  first ≤ t.seconds && t.seconds < limit

/-- The time on a day at an hour, minute and second; a leap second counts as the one before it. -/
def ofFields (date : CalendarDate) (hour minute second : Nat) : LocalTime :=
  ⟨date.toDays * daySeconds + hour * 3600 + minute * 60 + min second 59⟩

/-- The day of a time, in days from the start of 1970. -/
def dayNumber (t : LocalTime) : Int :=
  Int.fdiv t.seconds daySeconds

def date (t : LocalTime) : CalendarDate :=
  .ofDays t.dayNumber

def secondOfDay (t : LocalTime) : Nat :=
  (Int.fmod t.seconds daySeconds).toNat

def hour (t : LocalTime) : Nat :=
  t.secondOfDay / 3600

def minute (t : LocalTime) : Nat :=
  t.secondOfDay / 60 % 60

def second (t : LocalTime) : Nat :=
  t.secondOfDay % 60

/-- The day of the week, from Sunday on. -/
def weekday (t : LocalTime) : Fin 7 :=
  ⟨((t.dayNumber + 4) % 7).toNat, by omega⟩

end LocalTime

/-! ## Patterns -/

/-- A part of a pattern that a time replaces. -/
inductive DateToken where
  | year
  | month
  | day
  | hour
  | minute
  | second
  | weekday
  deriving DecidableEq

namespace DateToken

def chars : DateToken → List Char
  | .year => ['Y', 'Y', 'Y', 'Y']
  | .month => ['M', 'M']
  | .day => ['D', 'D']
  | .hour => ['H', 'H']
  | .minute => ['m', 'm']
  | .second => ['s', 's']
  | .weekday => ['W', 'W']

def expand (t : LocalTime) (weekdays : Vector String 7) : DateToken → String
  | .year => toString t.date.year
  | .month => Text.padded 2 t.date.month
  | .day => Text.padded 2 t.date.day
  | .hour => Text.padded 2 t.hour
  | .minute => Text.padded 2 t.minute
  | .second => Text.padded 2 t.second
  | .weekday => weekdays[t.weekday]

end DateToken

namespace LocalTime

/-- A pattern with its tokens expanded, from the left and in one pass. -/
def renderChars (t : LocalTime) (weekdays : Vector String 7) : List Char → List Char
  | 'Y' :: 'Y' :: 'Y' :: 'Y' :: rest =>
    (DateToken.year.expand t weekdays).toList ++ renderChars t weekdays rest
  | 'M' :: 'M' :: rest =>
    (DateToken.month.expand t weekdays).toList ++ renderChars t weekdays rest
  | 'D' :: 'D' :: rest =>
    (DateToken.day.expand t weekdays).toList ++ renderChars t weekdays rest
  | 'H' :: 'H' :: rest =>
    (DateToken.hour.expand t weekdays).toList ++ renderChars t weekdays rest
  | 'm' :: 'm' :: rest =>
    (DateToken.minute.expand t weekdays).toList ++ renderChars t weekdays rest
  | 's' :: 's' :: rest =>
    (DateToken.second.expand t weekdays).toList ++ renderChars t weekdays rest
  | 'W' :: 'W' :: rest =>
    (DateToken.weekday.expand t weekdays).toList ++ renderChars t weekdays rest
  | c :: rest => c :: renderChars t weekdays rest
  | [] => []

def render (t : LocalTime) (weekdays : Vector String 7) (pattern : String) : String :=
  String.ofList (renderChars t weekdays pattern.toList)

end LocalTime

end FieldTags
