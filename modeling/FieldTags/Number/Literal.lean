import FieldTags.Number.Decimal
import FieldTags.Text.Blank

/-!
# Number literals

A number literal is a signed decimal fraction, with a fraction part and an exponent that may be
missing, or an unsigned whole number in base sixteen, eight or two behind `0x`, `0o` or `0b`.
Digits are the ASCII digits. Blanks around a literal do not matter; a decimal literal beyond the
finite numbers and a prefixed one beyond 63 bits are no numbers.
-/

namespace FieldTags.Literal

def readSign : List Char → Bool × List Char
  | '-' :: rest => (true, rest)
  | '+' :: rest => (false, rest)
  | cs => (false, cs)

/-- The exponent part, which has to fill the rest of the literal; a missing one is zero. -/
def readExponent : List Char → Option Int
  | [] => some 0
  | e :: rest =>
    if e = 'e' || e = 'E' then
      let (negative, digits) := readSign rest
      if digits ≠ [] && digits.all Char.isDigit then
        let n : Int := Decimal.digitsValue digits
        some (if negative then -n else n)
      else none
    else none

def readFraction : List Char → List Char × List Char
  | '.' :: rest => (rest.takeWhile Char.isDigit, rest.dropWhile Char.isDigit)
  | cs => ([], cs)

def readDecimal (cs : List Char) : Option Decimal :=
  let whole := cs.takeWhile Char.isDigit
  let (fraction, rest) := readFraction (cs.dropWhile Char.isDigit)
  if whole = [] && fraction = [] then none
  else
    (readExponent rest).map fun exponent ↦
      ⟨Decimal.digitsValue (whole ++ fraction), exponent - fraction.length⟩

/-- The base that a letter stands for behind a leading zero. -/
def baseOfLetter? (c : Char) : Option Nat :=
  if c = 'x' || c = 'X' then some 16
  else if c = 'o' || c = 'O' then some 8
  else if c = 'b' || c = 'B' then some 2
  else none

/-- The value of a digit, letters counting from ten. -/
def digitValue? (c : Char) : Option Nat :=
  if c.isDigit then some (c.toNat - '0'.toNat)
  else if 'a' ≤ c && c ≤ 'f' then some (c.toNat - 'a'.toNat + 10)
  else if 'A' ≤ c && c ≤ 'F' then some (c.toNat - 'A'.toNat + 10)
  else none

def readDigits (base : Nat) (cs : List Char) : Option Nat :=
  let step (value : Nat) (c : Char) : Option Nat :=
    match digitValue? c with
    | some digit => if digit < base then some (base * value + digit) else none
    | none => none
  cs.foldlM step 0

/-- An unsigned whole number behind a base prefix. -/
def readPrefixed : List Char → Option Nat
  | '0' :: letter :: digits =>
    match baseOfLetter? letter with
    | some base => if digits = [] then none else readDigits base digits
    | none => none
  | _ => none

def readChars (cs : List Char) : Option Binary64 :=
  let (negative, unsigned) := readSign cs
  match readDecimal unsigned with
  | some d =>
    let x := d.toBinary64 negative
    if x.isFinite then some x else none
  | none =>
    match readPrefixed cs with
    | some n => if n < twoPow 63 then some (.ofNat n) else none
    | none => none

end FieldTags.Literal

namespace FieldTags.Binary64

/-- The number that a text stands for as a whole, blanks around it aside. -/
def ofText? (s : String) : Option Binary64 :=
  Literal.readChars (Text.trimChars s.toList)

end FieldTags.Binary64
