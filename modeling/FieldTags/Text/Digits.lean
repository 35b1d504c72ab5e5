import FieldTags.Number.Decimal

/-!
# Numbers in texts

A natural number is written in decimal digits, which a plus sign may precede. Hexadecimal digits are
those of the decimal system and the letters from `a` to `f` in either case.
-/

namespace FieldTags.Text

/-- The natural number below `bound` that a text stands for as a whole. -/
def readNatural? (bound : Nat) (s : String) : Option Nat :=
  let digits :=
    match s.toList with
    | '+' :: rest => rest
    | cs => cs
  if digits ≠ [] && digits.all Char.isDigit then
    let n := Decimal.digitsValue digits
    if n < bound then some n else none
  else none

/-- A number in decimal digits, with zeros in front up to a width. -/
def padded (width : Nat) (n : Nat) : String :=
  let digits := Nat.toDigits 10 n
  String.ofList (List.replicate (width - digits.length) '0' ++ digits)

def hexValue? (c : Char) : Option Nat :=
  if c.isDigit then some (c.toNat - '0'.toNat)
  else if 'a' ≤ c && c ≤ 'f' then some (c.toNat - 'a'.toNat + 10)
  else if 'A' ≤ c && c ≤ 'F' then some (c.toNat - 'A'.toNat + 10)
  else none

def hexNumber? (digits : List Char) : Option Nat :=
  digits.foldlM (fun n c ↦ (hexValue? c).map fun d ↦ n * 16 + d) 0

end FieldTags.Text
