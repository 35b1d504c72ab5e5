import FieldTags.Display.DateText
import FieldTags.Display.Settings
import FieldTags.Display.Value
import FieldTags.Json.Coercion
import FieldTags.Note

/-!
# Formatting values

A formatter is named by a text of a kind and, behind the first colon, parameters: a date pattern, a
number of decimals, the size of an image or the name of a custom formatter. A value that is blank
shows the placeholder under every formatter, and a value without a formatter shows its text.

Dates are read from numbers, which count milliseconds, or seconds if their text has ten characters,
from texts of digits in the same way, and from texts of dates. The times of numbers and of zoned
texts are shifted by the offset of the settings. A shift out of the representable times is an error,
and so are more decimals than a text can have, which no formatter asks for.
-/

namespace FieldTags

/-- What a formatter does. -/
inductive FormatterKind where
  | date
  | datetime
  | currency
  | percent
  | image
  | custom
  | unknown (name : String)
  deriving DecidableEq

def FormatterKind.ofName (name : String) : FormatterKind :=
  if name = "date" then .date
  else if name = "datetime" then .datetime
  else if name = "currency" then .currency
  else if name = "percent" then .percent
  else if name = "img" then .image
  else if name = "custom" then .custom
  else .unknown name

/-- A kind of formatter and its parameters. -/
structure FormatterSpec where
  kind : FormatterKind
  /-- Its parameters, unless they are empty. -/
  params : Option String
  deriving DecidableEq

/-- The formatter that a text names; a blank text names none. -/
def FormatterSpec.read? (s : String) : Option FormatterSpec :=
  let spec := Text.trimChars s.toList
  if spec = [] then none
  else
    match Text.splitFirst? ':' spec with
    | none => some ⟨.ofName (String.ofList spec), none⟩
    | some (name, params) =>
      let params := Text.trimChars params
      some ⟨.ofName (String.ofList (Text.trimChars name)),
        if params = [] then none else some (String.ofList params)⟩

/-- Why a value could not be formatted. -/
inductive FormatError where
  /-- The offset shifts the time out of the representable times. -/
  | timeOutOfRange
  | tooManyDecimals
  deriving DecidableEq

/-! ## Numbers -/

/-- The number of decimals that parameters ask for, at most 20. -/
def decimalPlaces (params : Option String) (default : Nat) : Nat :=
  match params.bind Binary64.ofText? with
  | some x => if x.less (.ofNat 0) then default else (x.clampToInt 0 20).toNat
  | none => default

/-- Digits with a comma in front of every third one, counted from the end. -/
def groupDigits : List Char → List Char
  | [] => []
  | digit :: rest =>
    if rest.length % 3 = 0 && rest ≠ [] then digit :: ',' :: groupDigits rest
    else digit :: groupDigits rest

/-- The number of decimals that standard formatting takes at most. No formatter asks for so many. -/
def maxDecimals : Nat := 65535

def decimalText (x : Binary64) (places : Nat) : Except FormatError String :=
  if places ≤ maxDecimals then .ok (x.fixedText places) else .error .tooManyDecimals

/-- The text of a number with commas between its thousands and a minus sign if it is negative. -/
def groupedText (negative : Bool) (fixed : List Char) : String :=
  let sign := if negative then ['-'] else []
  String.ofList (sign ++ groupDigits (fixed.takeWhile (· ≠ '.')) ++ fixed.dropWhile (· ≠ '.'))

/-- A number with a fixed count of decimals and commas between the thousands. -/
def groupThousands (x : Binary64) (places : Nat) : Except FormatError String :=
  (decimalText x.abs places).map fun fixed ↦ groupedText (x.less (.ofNat 0)) fixed.toList

/-- A number in hundredths with a fixed count of decimals. -/
def percentText (x : Binary64) (places : Nat) : Except FormatError String :=
  (decimalText (x.mul (.ofNat 100)) places).map (· ++ "%")

def finiteNumber? (value : Json) : Option Binary64 :=
  value.toNumber?.filter Binary64.isFinite

/-- The width and height that parameters such as `80x60` ask for, or those of the settings. -/
def imageSize (params : Option String) (settings : RenderSettings) : UInt32 × UInt32 :=
  match params with
  | none => (settings.imageWidth, settings.imageHeight)
  | some s =>
    let sizes := (Text.split 'x' s).map fun part ↦
      (Text.readNatural? UInt32.size (Text.trim part)).map UInt32.ofNat
    ((sizes[0]?.bind id).getD settings.imageWidth, (sizes[1]?.bind id).getD settings.imageHeight)

/-! ## Times -/

/-- The offset from universal time in seconds; an offset of a day or more counts as none. -/
def RenderSettings.offsetSeconds (settings : RenderSettings) : Int :=
  let seconds := settings.utcOffsetMinutes * 60
  if seconds.natAbs < 86400 then seconds else 0

def toLocalTime (offset universal : Int) : Except FormatError LocalTime :=
  let time : LocalTime := ⟨universal + offset⟩
  if time.isRepresentable then .ok time else .error .timeOutOfRange

/-- The universal time that a number counts, in seconds, if it is representable. -/
def epochSeconds? (x : Binary64) : Option Int :=
  if x.isFinite then
    let millis := if x.scriptText.length = 10 then x.mul (.ofNat 1000) else x
    let seconds := Int.fdiv (millis.clampToInt minInt64 maxInt64) 1000
    if (LocalTime.mk seconds).isRepresentable then some seconds else none
  else none

/-- The time that a value stands for. -/
inductive TimeReading where
  | none
  /-- A time of an unknown place, which counts as local. -/
  | naive (time : LocalTime)
  /-- A universal time in seconds from the start of 1970. -/
  | universal (seconds : Int)
  deriving DecidableEq

def TimeReading.ofNumber (x : Binary64) : TimeReading :=
  match epochSeconds? x with
  | some seconds => .universal seconds
  | Option.none => .none

def TimeReading.ofText (s : String) : TimeReading :=
  let cs := Text.trimChars s.toList
  if cs ≠ [] && cs.all Char.isDigit then
    .ofNumber (Decimal.toBinary64 false ⟨Decimal.digitsValue cs, 0⟩)
  else
    match DateText.readZoned cs with
    | some seconds => .universal seconds
    | Option.none =>
      match DateText.readNaive cs with
      | some time => .naive time
      | Option.none => .none

def TimeReading.ofJson : Json → TimeReading
  | .number n => .ofNumber n.toBinary64
  | .string s => .ofText s
  | _ => .none

/-- The local time of a reading, if it is one. -/
def TimeReading.toLocal (offset : Int) : TimeReading → Except FormatError (Option LocalTime)
  | .none => .ok Option.none
  | .naive time => .ok (some time)
  | .universal seconds => (toLocalTime offset seconds).map some

/-! ## Formatters -/

/-- Settings and the custom formatters that are registered, by name. -/
structure Formatter where
  settings : RenderSettings
  custom : String → Option (Json → String)

namespace Formatter

/-- A formatter without custom ones. -/
def ofSettings (settings : RenderSettings) : Formatter :=
  ⟨settings, fun _ ↦ none⟩

def placeholder (f : Formatter) : DisplayValue :=
  .text f.settings.placeholder

def formatTime (f : Formatter) (value : Json) (pattern : String) :
    Except FormatError DisplayValue :=
  if !value.isTruthy then .ok f.placeholder
  else
    match (TimeReading.ofJson value).toLocal f.settings.offsetSeconds with
    | .error e => .error e
    | .ok none => .ok f.placeholder
    | .ok (some time) => .ok (.text (time.render f.settings.weekdayNames pattern))

/-- A value that is not blank under a formatter. -/
def formatBy (f : Formatter) (value : Json) (spec : FormatterSpec) :
    Except FormatError DisplayValue :=
  match spec.kind with
  | .date => f.formatTime value (spec.params.getD "YYYY-MM-DD")
  | .datetime => f.formatTime value (spec.params.getD "YYYY-MM-DD HH:mm:ss")
  | .currency =>
    match finiteNumber? value with
    | some x => (groupThousands x (decimalPlaces spec.params 2)).map .text
    | none => .ok f.placeholder
  | .percent =>
    match finiteNumber? value with
    | some x => (percentText x (decimalPlaces spec.params 1)).map .text
    | none => .ok f.placeholder
  | .image =>
    let size := imageSize spec.params f.settings
    .ok (.image value.displayText size.1 size.2)
  | .custom =>
    match spec.params.bind f.custom with
    | some format => .ok (.text (format value))
    | none => .ok (.text value.displayText)
  | .unknown _ => .ok (.text value.displayText)

/-- A value under the formatter that a text names. -/
def formatValue (f : Formatter) (value : Option Json) (spec : Option String) :
    Except FormatError DisplayValue :=
  match value with
  | none => .ok f.placeholder
  | some data =>
    if Json.isBlank (some data) then .ok f.placeholder
    else
      match spec.bind FormatterSpec.read? with
      | none => .ok (.text data.displayText)
      | some spec => f.formatBy data spec

def formatNotes (f : Formatter) (value : Option Json) (spec : Option String) : List Note :=
  if Json.isBlank value then []
  else
    match spec.bind FormatterSpec.read? with
    | some ⟨.custom, params⟩ =>
      if (params.bind f.custom).isNone then [.unregisteredFormatter params] else []
    | some ⟨.unknown name, _⟩ => [.unknownFormatter name]
    | _ => []

end Formatter

end FieldTags
