/-!
# Places in YAML text

A cursor stands somewhere in a text and knows its line and column, on which the meaning of YAML text
depends. Lines end at a line feed, a carriage return, both of them in this order, and the next line,
line separator and paragraph separator characters. Most control characters may not occur at all.
-/

namespace FieldTags.Yaml

/-- Whether a character may occur in YAML text. -/
def isAllowed (c : Char) : Bool :=
  let n := c.toNat
  n == 0x09 || n == 0x0A || n == 0x0D || (0x20 ≤ n && n ≤ 0x7E) || n == 0x85 ||
    (0xA0 ≤ n && n ≤ 0xFFFD) || 0x10000 ≤ n

def isSpace (c : Char) : Bool :=
  c = ' ' || c = '\t'

def isBreak (c : Char) : Bool :=
  c = '\n' || c = '\r' || c = '\u0085' || c = '\u2028' || c = '\u2029'

/-- What the end of a line is in the text of a scalar. -/
def breakChar (c : Char) : Char :=
  if c = '\u2028' || c = '\u2029' then c else '\n'

/-- Whether a line ends here or there is a space. -/
def endsWord (cs : List Char) : Bool :=
  cs.head?.all fun c ↦ isSpace c || isBreak c

/-- Whether a line ends here. -/
def endsLine (cs : List Char) : Bool :=
  cs.head?.all isBreak

/-- A place in a text. -/
structure Cursor where
  rest : List Char
  /-- The number of characters before the place. -/
  index : Nat
  /-- The number of lines before its line. -/
  line : Nat
  /-- The number of characters before it on its line. -/
  column : Nat

namespace Cursor

def start (text : List Char) : Cursor := ⟨text, 0, 0, 0⟩

/-- The place that many characters further on the line. -/
def skip (c : Cursor) (count : Nat) : Cursor :=
  ⟨c.rest.drop count, c.index + count, c.line, c.column + count⟩

/-- The place behind all characters of a kind that does not end lines. -/
def skipWhile (c : Cursor) (p : Char → Bool) : Cursor :=
  c.skip (c.rest.takeWhile p).length

/-- The start of the next line, if the line ends here. -/
def skipBreak (c : Cursor) : Cursor :=
  match c.rest with
  | '\r' :: '\n' :: rest => ⟨rest, c.index + 2, c.line + 1, 0⟩
  | b :: rest => if isBreak b then ⟨rest, c.index + 1, c.line + 1, 0⟩ else c
  | [] => c

/-- The end of the line, if there is nothing before it but a comment. -/
def skipComment (c : Cursor) : Cursor :=
  if c.rest.head? = some '#' then c.skipWhile (!isBreak ·) else c

/-- Whether the line starts here with three times a character and nothing right behind. -/
def atMark (c : Cursor) (mark : Char) : Bool :=
  c.column = 0 && c.rest.take 3 = [mark, mark, mark] && endsWord (c.rest.drop 3)

/-- Whether a document starts or ends here. -/
def atDocumentMark (c : Cursor) : Bool :=
  c.atMark '-' || c.atMark '.'

theorem length_skip (c : Cursor) (count : Nat) :
    (c.skip count).rest.length = c.rest.length - count := by
  simp [skip]

theorem length_skipWhile (c : Cursor) (p : Char → Bool) :
    (c.skipWhile p).rest.length ≤ c.rest.length := by
  simp [skipWhile, length_skip]

theorem length_skipComment (c : Cursor) : c.skipComment.rest.length ≤ c.rest.length := by
  unfold skipComment
  split
  · exact length_skipWhile c _
  · exact Nat.le_refl _

theorem length_skip_one {c : Cursor} {b : Char} {rest : List Char} (h : c.rest = b :: rest) :
    (c.skip 1).rest.length < c.rest.length := by
  simp [skip, h]

theorem length_skipBreak {c : Cursor} {b : Char} {rest : List Char} (h : c.rest = b :: rest)
    (hb : isBreak b = true) : c.skipBreak.rest.length < c.rest.length := by
  unfold skipBreak
  split
  next more hmore =>
    simp only [hmore, List.length_cons]
    omega
  next first more _ hmore =>
    have hfirst : first = b := by
      rw [h] at hmore
      exact (List.cons.inj hmore).1.symm
    simp [hfirst, hb, hmore]
  next hempty => simp [h] at hempty

end Cursor

end FieldTags.Yaml
