import FieldTags.Yaml.Cursor

/-!
# Block scalars

A block scalar consists of the lines below its header that are indented far enough. The header tells
whether lines are joined, how far they are indented, and what becomes of the ends of lines at the end.
Without a number in the header the first line that is not empty tells how far they are indented.
-/

namespace FieldTags.Yaml

/-- What becomes of the ends of lines at the end of a block scalar. -/
inductive Chomping
  /-- None is kept. -/
  | strip
  /-- One is kept. -/
  | clip
  /-- All are kept. -/
  | keep
deriving DecidableEq

namespace Chomping

/-- What a mark in the header asks for. -/
def ofMark? : Char → Option Chomping
  | '+' => some .keep
  | '-' => some .strip
  | _ => none

/-- What the header asks for at a place, and the place behind it. -/
def read (c : Cursor) : Chomping × Cursor :=
  match c.rest.head?.bind ofMark? with
  | some chomping => (chomping, c.skip 1)
  | none => (.clip, c)

/-- The kept ends of lines, of which the first ends the last line that is not empty. -/
def kept (chomping : Chomping) (lineEnd breaks : List Char) : List Char :=
  match chomping with
  | .strip => []
  | .clip => lineEnd
  | .keep => lineEnd ++ breaks

end Chomping

/-- The digit in a header at a place, which is not zero, and the place behind it. -/
def readIncrement (c : Cursor) : Option (Option Nat × Cursor) :=
  match c.rest.head? with
  | some '0' => none
  | some d => some (if d.isDigit then (some (d.toNat - '0'.toNat), c.skip 1) else (none, c))
  | none => some (none, c)

/-- The marks of a header, in either order, and the place behind them. -/
def readHeaderMarks (c : Cursor) : Option (Chomping × Option Nat × Cursor) :=
  if (c.rest.head?.bind Chomping.ofMark?).isSome then
    let (chomping, c) := Chomping.read c
    (readIncrement c).map fun r ↦ (chomping, r)
  else
    (readIncrement c).map fun r ↦
      let (chomping, c) := Chomping.read r.2
      (chomping, r.1, c)

/-- The place behind the indentation of a line, which goes up to a column if it is known. -/
def skipIndentation (indent : Option Nat) (c : Cursor) : Cursor :=
  let spaces := (c.rest.takeWhile (· = ' ')).length
  c.skip (match indent with
    | some indent => min spaces (indent - c.column)
    | none => spaces)

theorem length_skipIndentation (indent : Option Nat) (c : Cursor) :
    (skipIndentation indent c).rest.length ≤ c.rest.length := by
  simp [skipIndentation, Cursor.length_skip]

/-- Empty lines. -/
structure EmptyLines where
  breaks : List Char
  /-- The number of spaces on the longest of the lines and in front of the next line. -/
  widest : Nat
  /-- The place behind the indentation of the next line. -/
  cursor : Cursor

/-- The empty lines at a place, after others. A tab must not stand in the indentation. -/
def readEmptyLines (indent : Option Nat) (breaks : List Char) (widest : Nat) (c : Cursor) :
    Option EmptyLines :=
  let c' := skipIndentation indent c
  match _h : c'.rest with
  | [] => some ⟨breaks.reverse, max widest c'.column, c'⟩
  | b :: _ =>
    if b = '\t' && indent.all (c'.column < ·) then none
    else if _hb : isBreak b then
      readEmptyLines indent (breakChar b :: breaks) (max widest c'.column) c'.skipBreak
    else some ⟨breaks.reverse, max widest c'.column, c'⟩
termination_by c.rest.length
decreasing_by
  exact Nat.lt_of_lt_of_le (Cursor.length_skipBreak _h _hb) (length_skipIndentation indent c)

/-- A block scalar up to a line. -/
structure BlockLines where
  /-- The lines without the end of the last one. -/
  text : List Char
  lineEnd : List Char
  /-- The ends of the empty lines behind it. -/
  breaks : List Char
  startsWithSpace : Bool

namespace BlockLines

/-- Nothing but empty lines. -/
def ofBreaks (breaks : List Char) : BlockLines := ⟨[], [], breaks, false⟩

/--
What stands between the lines so far and the next one. Lines are only joined if neither of them starts
with a space.
-/
def joint (lines : BlockLines) (folded nextStartsWithSpace : Bool) : List Char :=
  if folded && lines.lineEnd = ['\n'] && !lines.startsWithSpace && !nextStartsWithSpace then
    if lines.breaks = [] then [' '] else lines.breaks
  else lines.lineEnd ++ lines.breaks

/-- The lines with the further ones that start in a column, and the place behind them. -/
def readFrom (folded : Bool) (indent : Nat) (lines : BlockLines) (c : Cursor) :
    Option (BlockLines × Cursor) :=
  if c.column = indent && c.rest ≠ [] then
    let line := c.rest.takeWhile (!isBreak ·)
    let startsWithSpace := line.head?.any isSpace
    let text := lines.text ++ lines.joint folded startsWithSpace ++ line
    let c' := c.skip line.length
    match readEmptyLines (some indent) [] 0 c'.skipBreak with
    | none => none
    | some next =>
      if next.cursor.rest.length < c.rest.length then
        readFrom folded indent
          ⟨text, (c'.rest.head?.map breakChar).toList, next.breaks, startsWithSpace⟩ next.cursor
      else none
  else some (lines, c)
termination_by c.rest.length

end BlockLines

/--
The block scalar whose first mark is at a place and the place behind it, where the blocks around it
leave it the columns from `margin` on.
-/
def readBlock (folded : Bool) (margin : Nat) (c : Cursor) : Option (List Char × Cursor) := do
  let (chomping, increment, c) ← readHeaderMarks (c.skip 1)
  let c := (c.skipWhile isSpace).skipComment
  guard (endsLine c.rest)
  let indent := increment.map (margin - 1 + ·)
  let empty ← readEmptyLines indent [] 0 c.skipBreak
  let indent := indent.getD (max (max empty.widest margin) 1)
  let (lines, c) ← BlockLines.readFrom folded indent (.ofBreaks empty.breaks) empty.cursor
  return (lines.text ++ chomping.kept lines.lineEnd lines.breaks, c)

end FieldTags.Yaml
