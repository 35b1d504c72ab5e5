import FieldTags.Json.Printer
import FieldTags.Number.Literal

/-!
# Coercions of JSON data

Row data is read loosely: every value has a text, a truth value and, in most cases, a number. Null,
blank text and the empty array count as zero, and an array of one item counts as its item. The text
of an array is the texts of its items with commas between them, and an object shows its compact JSON
text.
-/

namespace FieldTags.Json

def toNumber? : Json → Option Binary64
  | .null => some (.ofNat 0)
  | .bool b => some (.ofNat (if b then 1 else 0))
  | .number n => some n.toBinary64
  | .string s => if Text.allBlank s then some (.ofNat 0) else Binary64.ofText? s
  | .array [] => some (.ofNat 0)
  | .array [item] => item.toNumber?
  | .array _ => none
  | .object _ => none

/-- The text of a number: the exact integer, or the text that a script writes. -/
def numberText : JsonNumber → String
  | .integer n _ => toString n
  | .float x _ => x.scriptText

mutual

def displayText : Json → String
  | .null => ""
  | .bool b => if b then "true" else "false"
  | .number n => numberText n
  | .string s => s
  | .array items => displayTexts items
  | .object members => (Json.object members).compact

/-- The texts of the items with commas between them. -/
def displayTexts : List Json → String
  | [] => ""
  | [item] => item.displayText
  | item :: rest => item.displayText ++ "," ++ displayTexts rest

end

/-- Whether there is nothing to show: a missing value, null or the empty text. -/
def isBlank : Option Json → Bool
  | none => true
  | some .null => true
  | some (.string s) => s = ""
  | some _ => false

/-- Whether a value counts as true: null, false, zero and the empty text do not. -/
def isTruthy : Json → Bool
  | .null => false
  | .bool b => b
  | .number n => !n.toBinary64.isZero && !n.toBinary64.isNaN
  | .string s => s ≠ ""
  | .array _ => true
  | .object _ => true

end FieldTags.Json
