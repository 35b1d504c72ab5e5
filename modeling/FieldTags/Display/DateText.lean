import FieldTags.Display.Calendar
import FieldTags.Text.Blank

/-!
# Reading dates and times

A text is read as a time in one of two ways. A zoned time has all of its fields with two digits, four
for the year, and an offset from universal time. A naive time follows one of ten formats and has no
offset. In a naive time blanks may precede every number, a number may have fewer digits, a year may
have a sign and is then not limited to four digits, and a blank of the format stands for any number
of blanks. The second 60 is accepted and shown as 59.
-/

namespace FieldTags

/-- The fields of a time as they are written. -/
structure DateFields where
  date : CalendarDate
  hour : Nat
  minute : Nat
  /-- The second, up to 60. -/
  second : Nat
  deriving DecidableEq

namespace DateFields

def start : DateFields :=
  ⟨⟨0, 0, 0⟩, 0, 0, 0⟩

/-- The local time that the fields stand for, if there is such a time. -/
def toLocal? (f : DateFields) : Option LocalTime :=
  if f.date.isValid && f.hour ≤ 23 && f.minute ≤ 59 && f.second ≤ 60 then
    some (.ofFields f.date f.hour f.minute f.second)
  else none

end DateFields

namespace DateText

/-- A number of at least `least` and at most `most` digits, and what follows it. -/
def readDigits (least most : Nat) (cs : List Char) : Option (Nat × List Char) :=
  let digits := (cs.take most).takeWhile Char.isDigit
  if least ≤ digits.length then
    some (Decimal.digitsValue digits, cs.drop digits.length)
  else none

def readChar (c : Char) : List Char → Option (List Char)
  | [] => none
  | d :: rest => if d = c then some rest else none

/-! ## Naive times -/

/-- A part of a format. -/
inductive Part where
  | year
  | month
  | day
  | hour
  | minute
  | second
  /-- A point and digits, or nothing. -/
  | fraction
  /-- Any number of blanks. -/
  | blank
  | char (c : Char)
  deriving DecidableEq

/-- A year: up to four digits, or a sign and any number of digits. -/
def readYear (cs : List Char) : Option (Int × List Char) :=
  match cs with
  | '-' :: rest => (readDigits 1 rest.length rest).map fun (n, rest) ↦ (-n, rest)
  | '+' :: rest => (readDigits 1 rest.length rest).map fun (n, rest) ↦ (n, rest)
  | cs => (readDigits 1 4 cs).map fun (n, rest) ↦ (n, rest)

/-- A fraction of a second, which is not kept, and what follows it. -/
def readFraction (cs : List Char) : Option (List Char) :=
  match cs with
  | '.' :: rest => (readDigits 1 rest.length rest).map Prod.snd
  | cs => some cs

/-- The fields with the one that a part of a format reads, and what follows it. -/
def readPart (f : DateFields) (cs : List Char) : Part → Option (DateFields × List Char)
  | .year => (readYear (cs.dropWhile Text.isBlank)).map fun (n, rest) ↦
      ({ f with date := { f.date with year := n } }, rest)
  | .month => (readDigits 1 2 (cs.dropWhile Text.isBlank)).map fun (n, rest) ↦
      ({ f with date := { f.date with month := n } }, rest)
  | .day => (readDigits 1 2 (cs.dropWhile Text.isBlank)).map fun (n, rest) ↦
      ({ f with date := { f.date with day := n } }, rest)
  | .hour => (readDigits 1 2 (cs.dropWhile Text.isBlank)).map fun (n, rest) ↦
      ({ f with hour := n }, rest)
  | .minute => (readDigits 1 2 (cs.dropWhile Text.isBlank)).map fun (n, rest) ↦
      ({ f with minute := n }, rest)
  | .second => (readDigits 1 2 (cs.dropWhile Text.isBlank)).map fun (n, rest) ↦
      ({ f with second := n }, rest)
  | .fraction => (readFraction cs).map fun rest ↦ (f, rest)
  | .blank => some (f, cs.dropWhile Text.isBlank)
  | .char c => (readChar c cs).map fun rest ↦ (f, rest)

/-- The fields that the parts of a format read from the whole of a text. -/
def readParts (f : DateFields) : List Part → List Char → Option DateFields
  | [], [] => some f
  | [], _ :: _ => none
  | part :: parts, cs =>
    match readPart f cs part with
    | some (f, rest) => readParts f parts rest
    | none => none

/-- The local time that a format reads from the whole of a text. -/
def readAs (parts : List Part) (cs : List Char) : Option LocalTime :=
  (readParts .start parts cs).bind DateFields.toLocal?

def dayParts (separator : Char) : List Part :=
  [.year, .char separator, .month, .char separator, .day]

def minuteParts : List Part :=
  [.hour, .char ':', .minute]

def secondParts : List Part :=
  minuteParts ++ [.char ':', .second]

/-- The formats of naive times in the order in which they are tried. -/
def formats : List (List Part) :=
  [dayParts '-' ++ [.blank] ++ secondParts,
    dayParts '-' ++ [.char 'T'] ++ secondParts,
    dayParts '-' ++ [.blank] ++ secondParts ++ [.fraction],
    dayParts '-' ++ [.char 'T'] ++ secondParts ++ [.fraction],
    dayParts '-' ++ [.blank] ++ minuteParts,
    dayParts '-' ++ [.char 'T'] ++ minuteParts,
    dayParts '/' ++ [.blank] ++ secondParts,
    dayParts '/' ++ [.blank] ++ minuteParts,
    dayParts '-',
    dayParts '/']

/-- A naive time, by the first format that reads it. -/
def readNaive (cs : List Char) : Option LocalTime :=
  formats.findSome? fun parts ↦ readAs parts cs

/-! ## Zoned times -/

/-- An offset from universal time in seconds, which has to fill the rest of the text. -/
def readOffset (cs : List Char) : Option Int :=
  match cs with
  | ['Z'] => some 0
  | ['z'] => some 0
  | sign :: rest => do
    let negative := sign = '-' || sign.toNat = 0x2212
    if !negative && sign ≠ '+' then none
    let (hours, rest) ← readDigits 2 2 rest
    let (minutes, rest) ← readDigits 2 2 (← readChar ':' rest)
    if rest ≠ [] || hours > 23 || minutes > 59 then none
    let seconds : Int := hours * 3600 + minutes * 60
    return if negative then -seconds else seconds
  | [] => none

/-- The character between the day and the time of a zoned time, and what follows it. -/
def readZonedMark : List Char → Option (List Char)
  | [] => none
  | c :: rest => if c = 'T' || c = 't' || c = ' ' then some rest else none

/-- A zoned time, in seconds of universal time from the start of 1970. -/
def readZoned (cs : List Char) : Option Int := do
  let (year, rest) ← readDigits 4 4 cs
  let (month, rest) ← readDigits 2 2 (← readChar '-' rest)
  let (day, rest) ← readDigits 2 2 (← readChar '-' rest)
  let (hour, rest) ← readDigits 2 2 (← readZonedMark rest)
  let (minute, rest) ← readDigits 2 2 (← readChar ':' rest)
  let (second, rest) ← readDigits 2 2 (← readChar ':' rest)
  let offset ← readOffset (← readFraction rest)
  let time ← DateFields.toLocal? ⟨⟨year, month, day⟩, hour, minute, second⟩
  return time.seconds - offset

end DateText

end FieldTags
