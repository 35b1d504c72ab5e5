import FieldTags.Text.Digits
import FieldTags.Yaml.Cursor
import FieldTags.Yaml.Token

/-!
# Anchors, tags and directives

An anchor names a node and an alias stands for the node of a name. A tag tells what kind a node is. It
is written whole, or as a handle and the rest, where a directive may tell what the handle stands for.
The other directive is the version of the language.
-/

namespace FieldTags.Yaml

/-- A character of the name of an anchor, a handle or a directive. -/
def isNameChar (c : Char) : Bool :=
  c.isAlphanum || c = '_' || c = '-'

def readName (c : Cursor) : String × Cursor :=
  let name := c.rest.takeWhile isNameChar
  (.ofList name, c.skip name.length)

/-- Whether the name of an anchor may end here. -/
def endsAnchor (cs : List Char) : Bool :=
  endsWord cs || cs.head?.any fun c ↦ ['?', ':', ',', ']', '}', '%', '@', '\x60'].contains c

/-- The anchor or alias whose mark is at a place and the place behind it. -/
def readAnchor (isAlias : Bool) (c : Cursor) : Option (Token × Cursor) :=
  let (name, c) := readName (c.skip 1)
  if name ≠ "" && endsAnchor c.rest then
    some (if isAlias then .alias name else .anchor name, c)
  else none

/-! ## Tags -/

/-- The octet that is escaped at a place and what follows it. -/
def readOctet : List Char → Option (Nat × List Char)
  | '%' :: a :: b :: rest => (Text.hexNumber? [a, b]).map fun n ↦ (n, rest)
  | _ => none

/-- The number of octets of a character that starts with an octet. -/
def octetCount? (octet : Nat) : Option Nat :=
  if octet < 0x80 then some 1
  else if 0xC0 ≤ octet && octet < 0xE0 then some 2
  else if 0xE0 ≤ octet && octet < 0xF0 then some 3
  else if 0xF0 ≤ octet && octet < 0xF8 then some 4
  else none

/-- So many escaped octets of a character behind its first one, and what follows them. -/
def readFurtherOctets : Nat → List Char → Option (List Nat × List Char)
  | 0, cs => some ([], cs)
  | count + 1, cs => do
    let (octet, cs) ← readOctet cs
    guard (0x80 ≤ octet && octet < 0xC0)
    let (octets, cs) ← readFurtherOctets count cs
    return (octet :: octets, cs)

/-- The escaped character at a place and what follows it. -/
def readEscaped (cs : List Char) : Option (List Char × List Char) := do
  let (first, cs) ← readOctet cs
  let count ← octetCount? first
  let (octets, cs) ← readFurtherOctets (count - 1) cs
  let bytes := ((first :: octets).map UInt8.ofNat).toByteArray
  return (((String.fromUTF8? bytes).getD "\ufffd").toList, cs)

/-- A character that a tag may contain, where brackets and commas need the angle brackets. -/
def isTagChar (isVerbatim : Bool) (c : Char) : Bool :=
  isNameChar c || ";/?:@&=+$.!~*'()".toList.contains c || (isVerbatim && ",[]".toList.contains c)

/-- The characters of a tag at a place and what follows them. -/
def readTagChars (isVerbatim : Bool) (cs : List Char) : Option (List Char × List Char) :=
  match cs with
  | [] => some ([], [])
  | c :: rest =>
    if c = '%' then
      match readEscaped (c :: rest) with
      | none => none
      | some (text, more) =>
        if more.length ≤ rest.length then
          (readTagChars isVerbatim more).map fun r ↦ (text ++ r.1, r.2)
        else none
    else if isTagChar isVerbatim c then
      (readTagChars isVerbatim rest).map fun r ↦ (c :: r.1, r.2)
    else some ([], c :: rest)
termination_by cs.length

/-- A part of a tag as it is kept, which a zero character ends. -/
def tagText (cs : List Char) : String :=
  .ofList (cs.takeWhile (· ≠ '\x00'))

/-- The part of a tag at a place, which must not be empty, and the place behind it. -/
def readTagPart (isVerbatim : Bool) (c : Cursor) : Option (String × Cursor) := do
  let (text, rest) ← readTagChars isVerbatim c.rest
  guard (rest.length < c.rest.length)
  return (tagText text, c.skip (c.rest.length - rest.length))

/-- Whether a text is the handle of a tag and not its start. -/
def isHandle (text : List Char) : Bool :=
  text.length > 1 && text.getLast? = some '!'

/-- The handle at an exclamation mark, or what could be one, and the place behind it. -/
def readHandle (c : Cursor) : List Char × Cursor :=
  let name := (c.rest.drop 1).takeWhile isNameChar
  let c := c.skip (1 + name.length)
  if c.rest.head? = some '!' then ('!' :: name ++ ['!'], c.skip 1) else ('!' :: name, c)

/-- The tag whose mark is at a place and the place behind it, if it may end there. -/
def readTag (inFlow : Bool) (c : Cursor) : Option (Token × Cursor) := do
  let (token, c) ←
    if (c.rest.drop 1).head? = some '<' then do
      let (text, c) ← readTagPart true (c.skip 2)
      guard (c.rest.head? = some '>')
      pure (Token.tag "" text, c.skip 1)
    else do
      let (handle, c) := readHandle c
      if isHandle handle then
        let (text, c) ← readTagPart false c
        pure (Token.tag (.ofList handle) text, c)
      else
        let (text, rest) ← readTagChars false c.rest
        let text := tagText (handle.drop 1 ++ text)
        let token := if text = "" then Token.tag "" "!" else Token.tag "!" text
        pure (token, c.skip (c.rest.length - rest.length))
  guard (endsWord c.rest || (inFlow && c.rest.head? = some ','))
  return (token, c)

/-! ## Directives -/

/-- The number of a version at a place, which has at most nine digits, and the place behind it. -/
def readVersionNumber (c : Cursor) : Option (Nat × Cursor) :=
  let digits := c.rest.takeWhile Char.isDigit
  if digits ≠ [] && digits.length ≤ 9 then
    some (Decimal.digitsValue digits, c.skip digits.length)
  else none

/-- The version behind the name of its directive and the place behind it. -/
def readVersion (c : Cursor) : Option (Token × Cursor) := do
  let (major, c) ← readVersionNumber (c.skipWhile isSpace)
  guard (c.rest.head? = some '.')
  let (minor, c) ← readVersionNumber (c.skip 1)
  return (.version major minor, c)

/-- The handle of a tag and what it stands for behind the name of the directive. -/
def readTagHandle (c : Cursor) : Option (Token × Cursor) := do
  let c := c.skipWhile isSpace
  guard (c.rest.head? = some '!')
  let (handle, c) := readHandle c
  guard (handle = ['!'] || isHandle handle)
  guard (c.rest.head?.any isSpace)
  let (expansion, c) ← readTagPart true (c.skipWhile isSpace)
  guard (endsWord c.rest)
  return (.tagHandle (.ofList handle) expansion, c)

/-- The directive whose mark is at a place and the start of the next line. -/
def readDirective (c : Cursor) : Option (Token × Cursor) := do
  let (name, c) := readName (c.skip 1)
  guard (endsWord c.rest)
  let (token, c) ←
    if name = "YAML" then readVersion c else if name = "TAG" then readTagHandle c else none
  let c := (c.skipWhile isSpace).skipComment
  guard (endsLine c.rest)
  return (token, c.skipBreak)

end FieldTags.Yaml
