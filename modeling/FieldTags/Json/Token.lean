import FieldTags.Json.Basic
import FieldTags.Text.Digits

/-!
# Tokens of JSON text

The text of a JSON document is a sequence of tokens with optional white space between them. White
space is the four ASCII characters that JSON names. Strings are read with all escapes, where a code
unit of a surrogate pair has to be followed by its partner for the string to have a value; they are
written with the short escapes and with control characters in four lowercase hexadecimal digits.

A number without fraction and exponent that fits in 64 bits is kept exactly, except for negative
zero. Every other number is approximated: as many leading digits as fit in 64 bits are rounded to a
binary number, which is then multiplied or divided by a power of ten. Each of these steps rounds, so
the result can differ from the nearest number in the last place. A number beyond the finite ones has
no value.
-/

namespace FieldTags.Json

/-- A token of JSON text. -/
inductive Token where
  | arrayStart
  | arrayEnd
  | objectStart
  | objectEnd
  | comma
  | colon
  | null
  | bool (value : Bool)
  | number (value : JsonNumber)
  | string (value : String)
  deriving DecidableEq

/-- What a piece of JSON text is. -/
inductive Lexeme where
  | token (token : Token)
  /-- A number beyond the finite ones. -/
  | hugeNumber
  /-- A string with half a surrogate pair. -/
  | brokenString
  deriving DecidableEq

/-! ## Writing -/

def escapedChar (c : Char) : List Char :=
  if c = '"' then ['\\', '"']
  else if c = '\\' then ['\\', '\\']
  else if c.toNat = 8 then ['\\', 'b']
  else if c.toNat = 9 then ['\\', 't']
  else if c.toNat = 10 then ['\\', 'n']
  else if c.toNat = 12 then ['\\', 'f']
  else if c.toNat = 13 then ['\\', 'r']
  else if c.toNat < 32 then
    ['\\', 'u', '0', '0', Nat.digitChar (c.toNat / 16), Nat.digitChar (c.toNat % 16)]
  else [c]

def stringText (s : String) : String :=
  String.ofList ('"' :: s.toList.flatMap escapedChar ++ ['"'])

def Token.text : Token → String
  | .arrayStart => "["
  | .arrayEnd => "]"
  | .objectStart => .singleton '{'
  | .objectEnd => .singleton '}'
  | .comma => ","
  | .colon => ":"
  | .null => "null"
  | .bool true => "true"
  | .bool false => "false"
  | .number value => value.text
  | .string value => stringText value

/-! ## Reading strings -/

/-- The code unit that four hexadecimal digits stand for, and what follows them. -/
def readUnit : List Char → Option (Nat × List Char)
  | a :: b :: c :: d :: rest =>
    match Text.hexValue? a, Text.hexValue? b, Text.hexValue? c, Text.hexValue? d with
    | some i, some j, some k, some l => some (((i * 16 + j) * 16 + k) * 16 + l, rest)
    | _, _, _, _ => none
  | _ => none

theorem length_of_readUnit {cs rest : List Char} {unit : Nat}
    (h : readUnit cs = some (unit, rest)) : rest.length < cs.length := by
  unfold readUnit at h
  split at h
  · split at h
    · simp only [Option.some.injEq, Prod.mk.injEq] at h
      simp only [← h.2, List.length_cons]
      omega
    · contradiction
  · contradiction

/-- The trailing code unit of a surrogate pair in an escape of its own, and what follows it. -/
def readTrailingUnit : List Char → Option (Nat × List Char)
  | '\\' :: 'u' :: more =>
    (readUnit more).filter fun read ↦ 0xDC00 ≤ read.1 && read.1 < 0xE000
  | _ => none

theorem length_of_readTrailingUnit {cs rest : List Char} {unit : Nat}
    (h : readTrailingUnit cs = some (unit, rest)) : rest.length < cs.length := by
  unfold readTrailingUnit at h
  split at h
  next more =>
    have := length_of_readUnit (Option.filter_eq_some_iff.mp h).1
    simp only [List.length_cons]
    omega
  · contradiction

/--
The character of a `u` escape, of which the digits are next, and what follows it. A leading code
unit of a surrogate pair takes the escape of the trailing one with it; alone, neither of them is a
character.
-/
def readUnicodeEscape (cs : List Char) : Option (Option Char × List Char) :=
  match readUnit cs with
  | none => none
  | some (unit, rest) =>
    if 0xD800 ≤ unit && unit < 0xDC00 then
      match readTrailingUnit rest with
      | some (low, after) =>
        some (some (Char.ofNat (0x10000 + (unit - 0xD800) * 0x400 + (low - 0xDC00))), after)
      | none => some (none, rest)
    else if 0xDC00 ≤ unit && unit < 0xE000 then some (none, rest)
    else some (some (Char.ofNat unit), rest)

theorem length_of_readUnicodeEscape {cs rest : List Char} {c : Option Char}
    (h : readUnicodeEscape cs = some (c, rest)) : rest.length < cs.length := by
  unfold readUnicodeEscape at h
  split at h
  · simp at h
  next unit tail hunit =>
    have hlen := length_of_readUnit hunit
    split at h
    · split at h
      next low after hlow =>
        have hmore := length_of_readTrailingUnit hlow
        simp only [Option.some.injEq, Prod.mk.injEq] at h
        rw [← h.2]
        omega
      · simp only [Option.some.injEq, Prod.mk.injEq] at h
        rw [← h.2]
        exact hlen
    · split at h
      all_goals
        simp only [Option.some.injEq, Prod.mk.injEq] at h
        rw [← h.2]
        exact hlen

/--
The character of an escape, of which the part behind the backslash is next, and what follows it; it
is missing for half a surrogate pair.
-/
def readEscape : List Char → Option (Option Char × List Char)
  | '"' :: rest => some (some '"', rest)
  | '\\' :: rest => some (some '\\', rest)
  | '/' :: rest => some (some '/', rest)
  | 'b' :: rest => some (some (Char.ofNat 8), rest)
  | 'f' :: rest => some (some (Char.ofNat 12), rest)
  | 'n' :: rest => some (some '\n', rest)
  | 'r' :: rest => some (some '\r', rest)
  | 't' :: rest => some (some '\t', rest)
  | 'u' :: rest => readUnicodeEscape rest
  | _ => none

theorem length_of_readEscape {cs rest : List Char} {c : Option Char}
    (h : readEscape cs = some (c, rest)) : rest.length < cs.length := by
  unfold readEscape at h
  split at h
  case h_9 =>
    have := length_of_readUnicodeEscape h
    simp only [List.length_cons]
    omega
  case h_10 => simp at h
  all_goals
    simp only [Option.some.injEq, Prod.mk.injEq] at h
    simp [h.2]

/-- The characters with one more in front, unless one of them is missing. -/
def consChar : Option Char → Option (List Char) → Option (List Char)
  | some c, some cs => some (c :: cs)
  | _, _ => none

/--
The characters of a string up to its closing quote, put behind `before`, and what follows. They are
missing if there is half a surrogate pair among them.
-/
def readString (before : Option (List Char)) (cs : List Char) :
    Option (Option (List Char) × List Char) :=
  match cs with
  | [] => none
  | c :: rest =>
    if c = '"' then some (before.map List.reverse, rest)
    else if c = '\\' then
      match _h : readEscape rest with
      | none => none
      | some (escaped, after) => readString (consChar escaped before) after
    else if c.toNat < 32 then none
    else readString (consChar (some c) before) rest
termination_by cs.length
decreasing_by
  · have := length_of_readEscape _h
    simp only [List.length_cons]
    omega
  · simp

theorem length_of_readString {before chars : Option (List Char)} {cs rest : List Char}
    (h : readString before cs = some (chars, rest)) : rest.length < cs.length := by
  fun_induction readString before cs
  case case1 => simp at h
  case case2 =>
    simp only [Option.some.injEq, Prod.mk.injEq] at h
    simp [h.2]
  case case3 => simp at h
  case case4 =>
    rename_i hescape _ ih
    have hafter := length_of_readEscape hescape
    have hrest := ih h
    simp only [List.length_cons]
    omega
  case case5 => simp at h
  case case6 ih =>
    have hrest := ih h
    simp only [List.length_cons]
    omega

/-! ## Reading numbers -/

/-- The parts of a number in JSON text. -/
structure Numeral where
  negative : Bool
  whole : List Char
  fraction : Option (List Char)
  exponent : Option Int

/-- The exponent part, which has to fill the rest of the numeral. -/
def readNumeralExponent : List Char → Option (Option Int)
  | [] => some none
  | e :: rest =>
    if e = 'e' || e = 'E' then
      let (negative, digits) :=
        match rest with
        | '-' :: digits => (true, digits)
        | '+' :: digits => (false, digits)
        | digits => (false, digits)
      if digits ≠ [] && digits.all Char.isDigit then
        let n : Int := Decimal.digitsValue digits
        some (some (if negative then -n else n))
      else none
    else none

/-- The numeral that all of the characters make up. -/
def readNumeral (cs : List Char) : Option Numeral := do
  let (negative, unsigned) :=
    match cs with
    | '-' :: rest => (true, rest)
    | rest => (false, rest)
  let whole := unsigned.takeWhile Char.isDigit
  let rest := unsigned.dropWhile Char.isDigit
  if whole = [] || (whole.head? = some '0' && whole.length ≠ 1) then none
  match rest with
  | '.' :: more =>
    let fraction := more.takeWhile Char.isDigit
    if fraction = [] then none
    return ⟨negative, whole, some fraction, ← readNumeralExponent (more.dropWhile Char.isDigit)⟩
  | _ => return ⟨negative, whole, none, ← readNumeralExponent rest⟩

/--
The longest run of leading digits that continues `value` within 64 bits, with the number of digits
that it left out.
-/
def leadingDigits (value : Nat) : List Char → Nat × Nat
  | [] => (value, 0)
  | digit :: rest =>
    let next := 10 * value + (digit.toNat - '0'.toNat)
    if next < UInt64.size then leadingDigits next rest else (value, rest.length + 1)

/-- The power of ten, rounded. -/
def powerOfTen (n : Nat) : Binary64 :=
  Decimal.toBinary64 false ⟨1, n⟩

/-- A number divided by `10 ^ n`, in steps of at most 308 places. -/
def divideByTen (x : Binary64) (n : Nat) : Binary64 :=
  if n ≤ 308 then x.div (powerOfTen n)
  else if x.isZero then x
  else divideByTen (x.div (powerOfTen 308)) (n - 308)
termination_by n

/-- The approximation of a decimal fraction; none if it is beyond the finite numbers. -/
def approximate (significand : Nat) (exponent : Int) : Option Binary64 :=
  let x := Binary64.ofNat significand
  if 0 ≤ exponent then
    if exponent ≤ 308 then
      let y := x.mul (powerOfTen exponent.toNat)
      if y.isFinite then some y else none
    else if x.isZero then some x else none
  else some (divideByTen x (-exponent).toNat)

/-- The number that a numeral stands for. -/
def Numeral.number? (n : Numeral) : Option JsonNumber :=
  let value := Decimal.digitsValue n.whole
  let exact : Option JsonNumber :=
    if n.fraction.isSome || n.exponent.isSome || (n.negative && value = 0) then none
    else JsonNumber.ofInt? (if n.negative then -value else value)
  match exact with
  | some integer => some integer
  | none => do
    let (leading, dropped) := leadingDigits 0 n.whole
    let fraction := n.fraction.getD []
    let (significand, left) := leadingDigits leading fraction
    let places := fraction.length - left
    let x ← approximate significand (dropped - places + n.exponent.getD 0)
    JsonNumber.ofBinary64? (if n.negative then x.neg else x)

/-! ## Reading tokens -/

/-- The white space of JSON text. -/
def isSpace (c : Char) : Bool :=
  c == ' ' || c == '\n' || c == '\t' || c == '\r'

/-- A character that can stand in a number. -/
def isNumberChar (c : Char) : Bool :=
  c.isDigit || c == '-' || c == '+' || c == '.' || c == 'e' || c == 'E'

/-- The token of a punctuation character. -/
def punctuation? (c : Char) : Option Token :=
  if c = '[' then some .arrayStart
  else if c = ']' then some .arrayEnd
  else if c = '{' then some .objectStart
  else if c = '}' then some .objectEnd
  else if c = ',' then some .comma
  else if c = ':' then some .colon
  else none

/-- A word of JSON text, and what follows it. -/
def readWord : List Char → Option (Lexeme × List Char)
  | 'n' :: 'u' :: 'l' :: 'l' :: rest => some (.token .null, rest)
  | 't' :: 'r' :: 'u' :: 'e' :: rest => some (.token (.bool true), rest)
  | 'f' :: 'a' :: 'l' :: 's' :: 'e' :: rest => some (.token (.bool false), rest)
  | _ => none

def Numeral.lexeme (n : Numeral) : Lexeme :=
  match n.number? with
  | some value => .token (.number value)
  | none => .hugeNumber

def readNumber (cs : List Char) : Option (Lexeme × List Char) :=
  match readNumeral (cs.takeWhile isNumberChar) with
  | some numeral => some (numeral.lexeme, cs.dropWhile isNumberChar)
  | none => none

def stringLexeme : Option (List Char) → Lexeme
  | some chars => .token (.string (String.ofList chars))
  | none => .brokenString

/-- A string of JSON text, of which the opening quote is read, and what follows it. -/
def readStringLexeme (cs : List Char) : Option (Lexeme × List Char) :=
  match readString (some []) cs with
  | some (chars, rest) => some (stringLexeme chars, rest)
  | none => none

/-- The lexeme that starts with `c` and continues in `cs`, and what follows it. -/
def readLexeme (c : Char) (cs : List Char) : Option (Lexeme × List Char) :=
  match punctuation? c with
  | some token => some (.token token, cs)
  | none =>
    if c = '"' then readStringLexeme cs
    else if isNumberChar c && c ≠ 'e' then readNumber (c :: cs)
    else readWord (c :: cs)

theorem length_of_readWord {cs rest : List Char} {lexeme : Lexeme}
    (h : readWord cs = some (lexeme, rest)) : rest.length < cs.length := by
  unfold readWord at h
  split at h
  all_goals simp only [reduceCtorEq, Option.some.injEq, Prod.mk.injEq] at h
  all_goals
    simp only [← h.2, List.length_cons]
    omega

theorem length_of_readNumber {c : Char} {cs rest : List Char} {lexeme : Lexeme}
    (h : readNumber (c :: cs) = some (lexeme, rest)) : rest.length ≤ cs.length := by
  unfold readNumber at h
  split at h
  next hvalue =>
    simp only [Option.some.injEq, Prod.mk.injEq] at h
    rw [← h.2]
    by_cases hc : isNumberChar c
    · rw [List.dropWhile_cons_of_pos hc]
      exact (List.dropWhile_suffix isNumberChar).length_le
    · rw [List.takeWhile_cons_of_neg hc] at hvalue
      contradiction
  · contradiction

theorem length_of_readLexeme {c : Char} {cs rest : List Char} {lexeme : Lexeme}
    (h : readLexeme c cs = some (lexeme, rest)) : rest.length ≤ cs.length := by
  unfold readLexeme at h
  split at h
  · simp only [Option.some.injEq, Prod.mk.injEq] at h
    simp [h.2]
  · split at h
    · unfold readStringLexeme at h
      split at h
      next hstring =>
        simp only [Option.some.injEq, Prod.mk.injEq] at h
        rw [← h.2]
        exact Nat.le_of_lt (length_of_readString hstring)
      · contradiction
    · split at h
      · exact length_of_readNumber h
      · have := length_of_readWord h
        simp only [List.length_cons] at this
        omega

def readLexemes (cs : List Char) : Option (List Lexeme) :=
  match cs with
  | [] => some []
  | c :: rest =>
    if isSpace c then readLexemes rest
    else
      match _h : readLexeme c rest with
      | none => none
      | some (lexeme, after) => (readLexemes after).map (lexeme :: ·)
termination_by cs.length
decreasing_by
  · simp
  · have := length_of_readLexeme _h
    simp only [List.length_cons]
    omega

end FieldTags.Json
