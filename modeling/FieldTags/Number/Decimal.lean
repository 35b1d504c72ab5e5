import FieldTags.Number.Binary64

/-!
# Decimal fractions

A decimal fraction is a number of digits together with the power of ten that they count. Reading
one as a binary number rounds once. Writing a binary number takes the fewest digits that read back
as the same number and, of these, the digits nearest to it.
-/

namespace FieldTags

/-- The decimal fraction `coefficient * 10 ^ exponent`. -/
structure Decimal where
  /-- The digits, read as one whole number. -/
  coefficient : Nat
  /-- The power of ten that the last digit counts. -/
  exponent : Int
  deriving DecidableEq

/-- Which of two neighbours an exact tie goes to. -/
inductive TieRule where
  /-- The neighbour whose last digit is even. -/
  | even
  /-- The greater magnitude. -/
  | up
  deriving DecidableEq

namespace Decimal

def digitsValue (digits : List Char) : Nat :=
  digits.foldl (fun value digit ↦ 10 * value + (digit.toNat - '0'.toNat)) 0

def digitCount (n : Nat) : Nat :=
  (Nat.toDigits 10 n).length

def nearestRank (d : Decimal) : Nat :=
  let grains := d.coefficient * Binary64.grainsInOne
  if 0 ≤ d.exponent then Binary64.nearestRank (grains * tenPow d.exponent.toNat) 1
  else Binary64.nearestRank grains (tenPow (-d.exponent).toNat)

/--
The binary number nearest to a decimal fraction. A fraction of more than 310 integral digits is
beyond all finite numbers and one with more than 330 zeros after the point is nearest to zero, so
that the power of ten is never taken of a large exponent.
-/
def toBinary64 (negative : Bool) (d : Decimal) : Binary64 :=
  if d.coefficient = 0 then .zeroOfSign negative
  else
    let size := digitCount d.coefficient + d.exponent
    if size > 310 then .infinity negative
    else if size < -330 then .zeroOfSign negative
    else .signed negative (min d.nearestRank Binary64.infinityRank) (Nat.min_le_right _ _)

/-- The fraction without the zeros at the end of its digits. -/
def trimZeros (d : Decimal) : Decimal :=
  let zeros := ((Nat.toDigits 10 d.coefficient).reverse.takeWhile (· == '0')).length
  if d.coefficient = 0 then ⟨0, 0⟩ else ⟨d.coefficient / tenPow zeros, d.exponent + zeros⟩

def ofGrains (grains : Nat) : Decimal :=
  ⟨grains * Nat.pow 5 1074, -1074⟩

/-- The position of the first digit of a positive number of grains: `1` for those from one to ten. -/
def leadPosition (grains : Nat) : Int :=
  digitCount (grains * tenPow 400 / Binary64.grainsInOne) - 400

/--
The decimal fractions next to a magnitude, below and above, among those whose last digit counts
`10 ^ exponent`, nearest first; a tie is ordered by `tie`.
-/
def neighbours (tie : TieRule) (grains : Nat) (exponent : Int) : List Decimal :=
  let numerator := if exponent ≤ 0 then grains * tenPow (-exponent).toNat else grains
  let denominator :=
    if exponent ≤ 0 then Binary64.grainsInOne else Binary64.grainsInOne * tenPow exponent.toNat
  let below := numerator / denominator
  let remainder := numerator % denominator
  let preferAbove : Bool :=
    if 2 * remainder = denominator then
      match tie with
      | .even => below % 2 == 1
      | .up => true
    else 2 * remainder > denominator
  let pair := [⟨below, exponent⟩, ⟨below + 1, exponent⟩]
  if preferAbove then pair.reverse else pair

/-- The fractions next to a magnitude with one up to seventeen digits, those with fewer first. -/
def candidates (tie : TieRule) (grains : Nat) : List Decimal :=
  let lead := leadPosition grains
  (List.range 17).flatMap fun count ↦ neighbours tie grains (lead - (count + 1 : Nat))

/--
The shortest decimal fraction that reads back as the magnitude of `rank`, and of those of this
length the nearest to it. Seventeen digits always suffice; the exact value stands in after them.
-/
def shortest (tie : TieRule) (rank : Nat) : Decimal :=
  let grains := Binary64.grains rank
  let found := (candidates tie grains).find? (·.nearestRank == rank)
  (found.getD (ofGrains grains)).trimZeros

end Decimal

end FieldTags
