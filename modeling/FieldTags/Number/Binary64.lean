import FieldTags.Number.Power

/-!
# Binary floating-point numbers of 64 bits

A number is either not a number or has a sign and a rank. The rank counts the representable
magnitudes from zero upward, so that zero has rank `0`, the least positive magnitude has rank `1`
and infinity has the greatest rank. Every finite magnitude is a whole multiple of the least
positive one, `2 ^ -1074`, and this multiple is its number of grains. Arithmetic is exact on
grains, and one rounding, to the nearest magnitude and to the even rank from halfway, brings the
exact result back.

The order of the ranks is the order of the magnitudes, so comparisons read ranks and never grains.
-/

namespace FieldTags

namespace Binary64

/-- The rank of infinity, one above that of the greatest finite magnitude. -/
def infinityRank : Nat := 2047 * twoPow 52

def grainsInOne : Nat := twoPow 1074

/-- A quotient rounded to the nearest whole number, and to the even one from halfway. -/
def roundHalfEven (numerator denominator : Nat) : Nat :=
  let quotient := numerator / denominator
  let remainder := numerator % denominator
  if 2 * remainder > denominator || (2 * remainder == denominator && quotient % 2 == 1) then
    quotient + 1
  else quotient

/--
The rank of the magnitude nearest to `numerator / denominator` grains. A magnitude with 53
significant bits is a multiple of `2 ^ scale` grains; its rank counts `2 ^ 52` magnitudes for every
doubling below it, also when rounding carries into the next one.
-/
def nearestRank (numerator denominator : Nat) : Nat :=
  let scale := Nat.log2 (numerator / denominator) - 52
  min (scale * twoPow 52 + roundHalfEven numerator (denominator * twoPow scale)) infinityRank

theorem nearestRank_le (numerator denominator : Nat) :
    nearestRank numerator denominator ≤ infinityRank :=
  Nat.min_le_right _ _

def grains (rank : Nat) : Nat :=
  let scale := rank / twoPow 52 - 1
  (rank - scale * twoPow 52) * twoPow scale

end Binary64

/-- A binary floating-point number of 64 bits; all that are not a number count as one. -/
inductive Binary64 where
  | nan
  /-- The magnitude of the given rank, with a sign. -/
  | signed (negative : Bool) (rank : Nat) (rank_le : rank ≤ Binary64.infinityRank)
  deriving DecidableEq

namespace Binary64

/-- The number nearest to `numerator / denominator` grains, with a sign. -/
def ofGrains (negative : Bool) (numerator denominator : Nat) : Binary64 :=
  .signed negative (nearestRank numerator denominator) (nearestRank_le numerator denominator)

def zeroOfSign (negative : Bool) : Binary64 :=
  .signed negative 0 (Nat.zero_le _)

def infinity (negative : Bool) : Binary64 :=
  .signed negative infinityRank (Nat.le_refl _)

def ofInt (n : Int) : Binary64 :=
  ofGrains (n < 0) (n.natAbs * grainsInOne) 1

def ofNat (n : Nat) : Binary64 :=
  ofInt n

instance : Inhabited Binary64 := ⟨zeroOfSign false⟩

/-- Neither infinite nor not a number. -/
def isFinite : Binary64 → Bool
  | .nan => false
  | .signed _ rank _ => rank < infinityRank

def isZero : Binary64 → Bool
  | .nan => false
  | .signed _ rank _ => rank == 0

def isNaN : Binary64 → Bool
  | .nan => true
  | .signed .. => false

/-! ## Comparison -/

/-- The position of a number that is one on the number line, where both zeros stand together. -/
def position? : Binary64 → Option Int
  | .nan => none
  | .signed true rank _ => some (-rank)
  | .signed false rank _ => some rank

def compare? (x y : Binary64) : Option Ordering :=
  match x.position?, y.position? with
  | some p, some q => some (compare p q)
  | _, _ => none

/-- Numeric equality: both zeros are equal, and what is not a number equals nothing. -/
def equals (x y : Binary64) : Bool :=
  x.compare? y == some .eq

/-- Strictly less; false when either is not a number. -/
def less (x y : Binary64) : Bool :=
  x.compare? y == some .lt

/--
The position in the total order, in which negative zero stands directly before zero and what is not
a number stands after everything.
-/
def totalPosition : Binary64 → Int
  | .nan => infinityRank + 1
  | .signed true rank _ => -rank - 1
  | .signed false rank _ => rank

/-! ## Arithmetic -/

def neg : Binary64 → Binary64
  | .nan => .nan
  | .signed negative rank h => .signed (!negative) rank h

def abs : Binary64 → Binary64
  | .nan => .nan
  | .signed _ rank h => .signed false rank h

def signedGrains (negative : Bool) (rank : Nat) : Int :=
  if negative then -grains rank else grains rank

/--
The rounded sum. Opposite infinities have none; a sum of zero is positive unless both terms are
negative.
-/
def add : Binary64 → Binary64 → Binary64
  | .nan, _ | _, .nan => .nan
  | x@(.signed m r _), y@(.signed n s _) =>
    if r = infinityRank then
      if s = infinityRank && m != n then .nan else x
    else if s = infinityRank then y
    else
      let sum := signedGrains m r + signedGrains n s
      if sum = 0 then zeroOfSign (m && n) else ofGrains (sum < 0) sum.natAbs 1

def sub (x y : Binary64) : Binary64 :=
  x.add y.neg

/-- The rounded product; zero times infinity has none. -/
def mul : Binary64 → Binary64 → Binary64
  | .nan, _ | _, .nan => .nan
  | .signed m r _, .signed n s _ =>
    if r = infinityRank || s = infinityRank then
      if r = 0 || s = 0 then .nan else infinity (m != n)
    else ofGrains (m != n) (grains r * grains s) grainsInOne

/--
The rounded quotient. Zero by zero and infinity by infinity have none; a division of anything else
by zero is infinite.
-/
def div : Binary64 → Binary64 → Binary64
  | .nan, _ | _, .nan => .nan
  | .signed m r _, .signed n s _ =>
    if r = infinityRank then
      if s = infinityRank then .nan else infinity (m != n)
    else if s = infinityRank then zeroOfSign (m != n)
    else if s = 0 then
      if r = 0 then .nan else infinity (m != n)
    else ofGrains (m != n) (grains r * grainsInOne) (grains s)

/--
The remainder of the quotient rounded toward zero, which is exact and has the sign of the dividend.
An infinite dividend and a zero divisor have none.
-/
def rem : Binary64 → Binary64 → Binary64
  | .nan, _ | _, .nan => .nan
  | x@(.signed m r _), .signed _ s _ =>
    if r = infinityRank || s = 0 then .nan
    else if s = infinityRank then x
    else ofGrains m (grains r % grains s) 1

/-! ## Whole numbers -/

def toInt? : Binary64 → Option Int
  | .nan => none
  | .signed negative rank _ =>
    if rank < infinityRank && grains rank % grainsInOne == 0 then
      let n := grains rank / grainsInOne
      some (if negative then -n else n)
    else none

/--
The integral part, held within the bounds `low` and `high`. Infinities are beyond every bound, and
what is not a number has the integral part `0`.
-/
def clampToInt (low high : Int) : Binary64 → Int
  | .nan => 0
  | .signed negative rank _ =>
    if rank = infinityRank then (if negative then low else high)
    else
      let n : Int := grains rank / grainsInOne
      max low (min high (if negative then -n else n))

end Binary64

end FieldTags
