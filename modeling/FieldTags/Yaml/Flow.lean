import FieldTags.Text.Digits
import FieldTags.Yaml.Cursor

/-!
# Scalars within lines

Plain scalars and scalars in single or double quotes. Each may continue on further lines. The spaces
around the end of a line are then dropped, and the end of the line itself becomes a space, or as many
line ends as there are empty lines behind it. A backslash in front of the end of a line in double
quotes joins the lines without a space.
-/

namespace FieldTags.Yaml

/-! ## Between words -/

/-- What stands between two words: spaces, and ends of lines behind them. -/
structure Gap where
  /-- The spaces in front of the first end of a line. -/
  spaces : List Char
  breaks : List Char

namespace Gap

def empty : Gap := ⟨[], []⟩

/-- What a gap is in the text of a scalar. -/
def text (gap : Gap) : List Char :=
  match gap.breaks with
  | [] => gap.spaces
  | ['\n'] => [' ']
  | '\n' :: more => more
  | breaks => breaks

def hasBreak (gap : Gap) : Bool := gap.breaks ≠ []

/--
The gap at a place and the place behind it, where spaces are dropped if a line has ended before. A tab
in front of column `limit` of a new line is an error.
-/
def readFrom (limit : Nat) (newLine : Bool) (spaces breaks : List Char) (c : Cursor) :
    Option (Gap × Cursor) :=
  match _h : c.rest with
  | [] => some (⟨spaces.reverse, breaks.reverse⟩, c)
  | b :: _ =>
    if isSpace b then
      if !newLine then readFrom limit newLine (b :: spaces) breaks (c.skip 1)
      else if b = '\t' && c.column < limit then none
      else readFrom limit newLine spaces breaks (c.skip 1)
    else if _hb : isBreak b then readFrom limit true spaces (breakChar b :: breaks) c.skipBreak
    else some (⟨spaces.reverse, breaks.reverse⟩, c)
termination_by c.rest.length
decreasing_by
  · exact Cursor.length_skip_one _h
  · exact Cursor.length_skip_one _h
  · exact Cursor.length_skipBreak _h _hb

def read (limit : Nat) (c : Cursor) : Option (Gap × Cursor) :=
  readFrom limit false [] [] c

/-- The ends of lines in the gap behind a joined line, and the place behind it. -/
def readJoined (c : Cursor) : Option (Gap × Cursor) :=
  readFrom 0 true [] [] c

end Gap

/-! ## Plain scalars -/

/-- A character that has a meaning of its own in brackets and braces. -/
def isFlowMark (c : Char) : Bool :=
  c = ',' || c = '[' || c = ']' || c = '{' || c = '}'

/-- The word of a plain scalar at a place, which a colon in front of brackets makes unreadable. -/
def plainWord (inFlow : Bool) : List Char → Option (List Char)
  | [] => some []
  | c :: rest =>
    if isSpace c || isBreak c then some []
    else if inFlow && c = ':' && rest.head?.any fun next ↦ isFlowMark next || next = '?' then none
    else if (c = ':' && endsWord rest) || (inFlow && isFlowMark c) then some []
    else (plainWord inFlow rest).map (c :: ·)

/-- A scalar that has been read. -/
structure ReadScalar where
  text : List Char
  /-- Whether a line ends between the scalar and the place behind it. -/
  endedLine : Bool
  cursor : Cursor

/--
The plain scalar that has a text so far and a gap behind it. It ends at a comment, a document mark and
a line that starts in front of column `limit`.
-/
def readPlainFrom (inFlow : Bool) (limit : Nat) (text : List Char) (gap : Gap) (c : Cursor) :
    Option ReadScalar :=
  if c.atDocumentMark || c.rest.head? = some '#' then some ⟨text, gap.hasBreak, c⟩
  else
    match plainWord inFlow c.rest with
    | none => none
    | some [] => some ⟨text, gap.hasBreak, c⟩
    | some word =>
      let text := text ++ gap.text ++ word
      let c' := c.skip word.length
      if c'.rest ≠ [] && endsWord c'.rest then
        match Gap.read limit c' with
        | none => none
        | some (gap, next) =>
          if !inFlow && next.column < limit then some ⟨text, gap.hasBreak, next⟩
          else if next.rest.length < c.rest.length then readPlainFrom inFlow limit text gap next
          else none
      else some ⟨text, false, c'⟩
termination_by c.rest.length

def readPlain (inFlow : Bool) (limit : Nat) (c : Cursor) : Option ReadScalar :=
  readPlainFrom inFlow limit [] .empty c

/-! ## Scalars in quotes -/

/-- The character of an escape of one character. -/
def shortEscape? : Char → Option Char
  | '0' => some '\x00'
  | 'a' => some '\x07'
  | 'b' => some '\x08'
  | 't' | '\t' => some '\t'
  | 'n' => some '\n'
  | 'v' => some '\x0b'
  | 'f' => some '\x0c'
  | 'r' => some '\r'
  | 'e' => some '\x1b'
  | ' ' => some ' '
  | '"' => some '"'
  | '/' => some '/'
  | '\\' => some '\\'
  | 'N' => some '\u0085'
  | '_' => some '\u00a0'
  | 'L' => some '\u2028'
  | 'P' => some '\u2029'
  | _ => none

/-- The character that hexadecimal digits stand for. -/
def codeEscape? (digits : List Char) : Option Char :=
  (Text.hexNumber? digits).bind fun n ↦
    if n.isValidChar then some (Char.ofNat n) else none

/-- A word and what follows it, with one more character in front of the word. -/
def consWord (c : Char) (read : Option (List Char × List Char)) : Option (List Char × List Char) :=
  read.map fun r ↦ (c :: r.1, r.2)

/--
A word in double quotes and what follows it: a space, the end of a line, a backslash in front of one,
or the closing quote.
-/
def readDoubleWord : List Char → Option (List Char × List Char)
  | [] => some ([], [])
  | '"' :: rest => some ([], '"' :: rest)
  | '\\' :: 'x' :: a :: b :: rest =>
    (codeEscape? [a, b]).bind fun c ↦ consWord c (readDoubleWord rest)
  | '\\' :: 'u' :: a :: b :: c :: d :: rest =>
    (codeEscape? [a, b, c, d]).bind fun c ↦ consWord c (readDoubleWord rest)
  | '\\' :: 'U' :: a :: b :: c :: d :: e :: f :: g :: h :: rest =>
    (codeEscape? [a, b, c, d, e, f, g, h]).bind fun c ↦ consWord c (readDoubleWord rest)
  | '\\' :: c :: rest =>
    if isBreak c then some ([], '\\' :: c :: rest)
    else (shortEscape? c).bind fun c ↦ consWord c (readDoubleWord rest)
  | ['\\'] => none
  | c :: rest =>
    if isSpace c || isBreak c then some ([], c :: rest) else consWord c (readDoubleWord rest)

/-- A word in single quotes, in which the quote is doubled, and what follows it. -/
def readSingleWord : List Char → Option (List Char × List Char)
  | [] => some ([], [])
  | '\'' :: '\'' :: rest => consWord '\'' (readSingleWord rest)
  | '\'' :: rest => some ([], '\'' :: rest)
  | c :: rest =>
    if isSpace c || isBreak c then some ([], c :: rest) else consWord c (readSingleWord rest)

/-- The scalar in quotes that has a text so far. It must not be interrupted by a document mark. -/
def readQuotedFrom (quote : Char) (text : List Char) (c : Cursor) : Option ReadScalar :=
  if c.atDocumentMark then none
  else
    match if quote = '"' then readDoubleWord c.rest else readSingleWord c.rest with
    | none => none
    | some (word, rest) =>
      let text := text ++ word
      let c' := c.skip (c.rest.length - rest.length)
      let joined := quote = '"' && rest.head? = some '\\'
      let c' := if joined then (c'.skip 1).skipBreak else c'
      if c'.rest.head? = some quote then some ⟨text, false, c'.skip 1⟩
      else
        match if joined then Gap.readJoined c' else Gap.read 0 c' with
        | none => none
        | some (gap, next) =>
          let text := text ++ if joined then gap.breaks else gap.text
          if next.rest.length < c.rest.length then readQuotedFrom quote text next else none
termination_by c.rest.length

/-- The scalar in quotes whose opening quote is at a place. -/
def readQuoted (quote : Char) (c : Cursor) : Option ReadScalar :=
  readQuotedFrom quote [] (c.skip 1)

end FieldTags.Yaml
