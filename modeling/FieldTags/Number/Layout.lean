import FieldTags.Number.Decimal

/-!
# Number texts

How the shortest decimal form of a number is laid out: positionally, or with one digit before the
point and an exponent. A layout says from which exponents on the second form is used and how it is
spelled. Numbers with a fixed count of places are written from their exact value, a half going to
the even neighbour.
-/

namespace FieldTags

/-- How a number is written. -/
structure NumberLayout where
  /-- The least exponent of the first digit that is written positionally; none is too small. -/
  least : Option Int
  /-- The greatest exponent of the first digit that is written positionally; none is too great. -/
  greatest : Option Int
  /-- Whether a whole number in positional form gets a point and a zero. -/
  marksWhole : Bool
  /-- Whether a positive exponent gets a plus sign. -/
  signsExponent : Bool
  /-- Which shortest form is taken from halfway between two. -/
  tie : TieRule

namespace NumberLayout

/-- Plain texts are positional at every size and have no mark of a whole number. -/
def plain : NumberLayout := ⟨none, none, false, false, .up⟩

/-- In JSON text, exponents from -5 to 15 are positional and whole numbers end in `.0`. -/
def json : NumberLayout := ⟨some (-5), some 15, true, true, .even⟩

/-- In notes, exponents from -4 to 15 are positional and whole numbers end in `.0`. -/
def note : NumberLayout := ⟨some (-4), some 15, true, false, .up⟩

/-- The digits of a decimal fraction with its point in place. -/
def positional (marksWhole : Bool) (digits : List Char) (exponent : Int) : List Char :=
  if 0 ≤ exponent then
    digits ++ List.replicate exponent.toNat '0' ++ (if marksWhole then ['.', '0'] else [])
  else
    let places := (-exponent).toNat
    if places < digits.length then
      digits.take (digits.length - places) ++ '.' :: digits.drop (digits.length - places)
    else '0' :: '.' :: List.replicate (places - digits.length) '0' ++ digits

/-- The digits of a decimal fraction with one digit before the point, and the exponent. -/
def scientific (signsExponent : Bool) (digits : List Char) (exponent : Int) : List Char :=
  let mantissa :=
    match digits with
    | [] => []
    | [digit] => [digit]
    | digit :: more => digit :: '.' :: more
  let sign := if exponent < 0 then ['-'] else if signsExponent then ['+'] else []
  mantissa ++ 'e' :: sign ++ Nat.toDigits 10 exponent.natAbs

/-- The text of a decimal fraction that ends in no zero. -/
def decimalChars (layout : NumberLayout) (d : Decimal) : List Char :=
  let digits := Nat.toDigits 10 d.coefficient
  let lead := d.exponent + (digits.length - 1 : Nat)
  if layout.least.all (· ≤ lead) && layout.greatest.all (lead ≤ ·) then
    positional layout.marksWhole digits d.exponent
  else scientific layout.signsExponent digits lead

def text (layout : NumberLayout) : Binary64 → String
  | .nan => "NaN"
  | .signed negative rank _ =>
    let magnitude :=
      if rank = Binary64.infinityRank then ['i', 'n', 'f']
      else if rank = 0 then layout.decimalChars ⟨0, 0⟩
      else layout.decimalChars (Decimal.shortest layout.tie rank)
    String.ofList (if negative then '-' :: magnitude else magnitude)

end NumberLayout

namespace Binary64

/-- A whole number with `places` of its digits after a point. -/
def placedChars (places : Nat) (n : Nat) : List Char :=
  let digits := Nat.toDigits 10 n
  let padded := List.replicate (places + 1 - digits.length) '0' ++ digits
  if places = 0 then padded
  else padded.take (padded.length - places) ++ '.' :: padded.drop (padded.length - places)

/-- The text of a number with a fixed count of decimal places. -/
def fixedText (places : Nat) : Binary64 → String
  | .nan => "NaN"
  | .signed negative rank _ =>
    let magnitude :=
      if rank = infinityRank then ['i', 'n', 'f']
      else placedChars places (roundHalfEven (grains rank * tenPow places) grainsInOne)
    String.ofList (if negative then '-' :: magnitude else magnitude)

/--
The text of a number as a script writes it: the plain text, but both zeros are `0` and infinity has
its full name.
-/
def scriptText (x : Binary64) : String :=
  if x.isZero then "0"
  else
    match x with
    | .nan => "NaN"
    | .signed negative rank _ =>
      if rank = infinityRank then (if negative then "-Infinity" else "Infinity")
      else NumberLayout.plain.text x

end Binary64

end FieldTags
