import FieldTags.Expression.Error
import FieldTags.Expression.Token
import FieldTags.Number.Literal
import FieldTags.Text.Letter

/-!
# Reading the tokens of an expression

White space separates tokens and is skipped. A number literal is a decimal literal as far as it
goes; a name that follows it directly makes it invalid. A text literal stands between quotes of one
kind, and a backslash in it takes the next character literally, except that `n`, `t`, `r` and `0`
stand for control characters. Of the punctuators that fit, the longest is taken, but a question mark
before a fraction such as `.5` is not taken together with its point.
-/

namespace FieldTags.Lexer

def isNameStart (c : Char) : Bool :=
  Text.isLetter c || c == '_' || c == '$'

def isNameChar (c : Char) : Bool :=
  Text.isLetterOrNumeric c || c == '_' || c == '$'

/-- The number of bytes of some characters in UTF-8. -/
def byteCount (cs : List Char) : Nat :=
  cs.foldl (fun count c ↦ count + c.utf8Size) 0

/-- The exponent at the start of a text, empty if there is none. -/
def exponentChars : List Char → List Char
  | e :: sign :: digit :: rest =>
    if e = 'e' || e = 'E' then
      if (sign = '+' || sign = '-') && digit.isDigit then
        e :: sign :: digit :: rest.takeWhile Char.isDigit
      else if sign.isDigit then e :: sign :: (digit :: rest).takeWhile Char.isDigit
      else []
    else []
  | [e, digit] => if (e = 'e' || e = 'E') && digit.isDigit then [e, digit] else []
  | _ => []

/-- The decimal literal at the start of a text. -/
def numberChars (cs : List Char) : List Char :=
  let whole := cs.takeWhile Char.isDigit
  let fraction :=
    match cs.dropWhile Char.isDigit with
    | '.' :: rest => '.' :: rest.takeWhile Char.isDigit
    | _ => []
  whole ++ fraction ++ exponentChars (cs.drop (whole.length + fraction.length))

/-- The character that a backslash makes of the character behind it. -/
def unescape (c : Char) : Char :=
  if c = 'n' then '\n'
  else if c = 't' then '\t'
  else if c = 'r' then '\r'
  else if c = '0' then Char.ofNat 0
  else c

/--
The content of a text literal of which the opening quote is read, and the number of characters up to
and with the closing quote; none if there is no closing quote.
-/
def textChars (quote : Char) : List Char → Option (List Char × Nat)
  | [] => none
  | c :: rest =>
    if c = quote then some ([], 1)
    else if c = '\\' then
      match rest with
      | [] => none
      | escaped :: more =>
        (textChars quote more).map fun (content, count) ↦ (unescape escaped :: content, count + 2)
    else (textChars quote rest).map fun (content, count) ↦ (c :: content, count + 1)

/-- Whether a punctuator is taken at the start of a text. -/
def fits (cs : List Char) (p : Punctuator) : Bool :=
  p.chars.isPrefixOf cs && !(p = .optionalDot && (cs[2]?.any Char.isDigit))

/-- Whether a number literal starts with the character `c` before `rest`. -/
def startsNumber (c : Char) (rest : List Char) : Bool :=
  c.isDigit || (c == '.' && rest.head?.any Char.isDigit)

/--
The token that starts with `c` at `offset` and continues in `rest`, and the number of characters of
`rest` that belong to it.
-/
def scan (offset : Nat) (c : Char) (rest : List Char) :
    Except ExpressionError (TokenKind × Nat) :=
  let cs := c :: rest
  if startsNumber c rest then
    let literal := numberChars cs
    match Binary64.ofText? (String.ofList literal) with
    | none => .error (.invalidNumber (String.ofList literal) offset)
    | some x =>
      if (cs.drop literal.length).head?.any isNameChar then
        let word := cs.takeWhile fun c ↦ isNameChar c || c == '.'
        .error (.invalidNumber (String.ofList word) offset)
      else .ok (.number x, literal.length - 1)
  else if c = '"' || c = '\'' then
    match textChars c rest with
    | none => .error (.unterminatedText offset)
    | some (content, count) => .ok (.text (String.ofList content), count)
  else if isNameStart c then
    let name := cs.takeWhile isNameChar
    .ok (.name (String.ofList name), name.length - 1)
  else
    match Punctuator.all.find? (fits cs) with
    | some p => .ok (.punctuator p, p.chars.length - 1)
    | none => .error (.unexpectedCharacter c offset)

/-- The tokens of the text `cs`, which starts at `offset`. -/
def tokensFrom (offset : Nat) (cs : List Char) : Except ExpressionError (List ExpressionToken) :=
  match cs with
  | [] => .ok []
  | c :: rest =>
    if Text.isBlank c then tokensFrom (offset + c.utf8Size) rest
    else
      match scan offset c rest with
      | .error e => .error e
      | .ok (kind, count) =>
        match tokensFrom (offset + byteCount (c :: rest.take count)) (rest.drop count) with
        | .error e => .error e
        | .ok tokens => .ok (⟨kind, offset⟩ :: tokens)
termination_by cs.length
decreasing_by
  · simp
  · simp only [List.length_drop, List.length_cons]
    omega

theorem tokensFrom_nil (offset : Nat) : tokensFrom offset [] = .ok [] := by
  rw [tokensFrom.eq_def]

/-- A blank is passed over. -/
theorem tokensFrom_of_isBlank {c : Char} (h : Text.isBlank c = true) (offset : Nat)
    (rest : List Char) :
    tokensFrom offset (c :: rest) = tokensFrom (offset + c.utf8Size) rest := by
  rw [tokensFrom.eq_def]
  exact if_pos h

/-- A token stands in front of the tokens behind it. -/
theorem tokensFrom_of_scan {c : Char} (h : Text.isBlank c = false) {offset count : Nat}
    {rest : List Char} {kind : TokenKind} {tokens : List ExpressionToken}
    (hscan : scan offset c rest = .ok (kind, count))
    (hrest : tokensFrom (offset + byteCount (c :: rest.take count)) (rest.drop count) = .ok tokens) :
    tokensFrom offset (c :: rest) = .ok (⟨kind, offset⟩ :: tokens) := by
  rw [tokensFrom.eq_def]
  simp only [h, Bool.false_eq_true, if_false, hscan, hrest]

def tokens (source : String) : Except ExpressionError (List ExpressionToken) :=
  tokensFrom 0 source.toList

end FieldTags.Lexer
