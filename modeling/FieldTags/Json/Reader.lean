import FieldTags.Json.Document
import FieldTags.Json.Token

/-!
# Reading JSON text

A document is read piece by piece. The state of the reader is the stack of the arrays and objects that
are still open and what the next piece has to be. Members keep the order and the repetitions of the
text. An array or object in more than 127 levels stands for no value, and neither does an object with
a key that has none.
-/

namespace FieldTags.Json

/-- An array or object in which a value is awaited; what is there already is kept last first. -/
inductive Frame where
  | array (before : List JsonDocument)
  /-- An object, the members that it has and the key of the next one. -/
  | object (before : List (Option String × JsonDocument)) (key : Option String)

/-- What a reader awaits, and the arrays and objects that are open, innermost first. -/
inductive Reader where
  | awaitValue (outer : List Frame)
  /-- The first item of an array or its end. -/
  | firstItem (outer : List Frame)
  /-- A comma or the end of an array. -/
  | afterItem (before : List JsonDocument) (outer : List Frame)
  /-- The first key of an object or its end. -/
  | firstKey (outer : List Frame)
  | awaitKey (before : List (Option String × JsonDocument)) (outer : List Frame)
  | awaitColon (before : List (Option String × JsonDocument)) (key : Option String)
    (outer : List Frame)
  /-- A comma or the end of an object. -/
  | afterMember (before : List (Option String × JsonDocument)) (outer : List Frame)
  /-- Nothing more: the document is complete. -/
  | finished (document : JsonDocument)

namespace Reader

/-- The number of levels of arrays and objects that a value has at most. -/
def maxDepth : Nat := 127

/-- The reader after a complete value. -/
def afterValue (value : JsonDocument) : List Frame → Reader
  | [] => .finished value
  | .array before :: outer => .afterItem (value :: before) outer
  | .object before key :: outer => .afterMember ((key, value) :: before) outer

/-- The reader after a complete array or object. -/
def afterNested (value : JsonDocument) (outer : List Frame) : Reader :=
  afterValue (if outer.length < maxDepth then value else .valueless) outer

/-- The object of members, which has no value if one of the keys has none. -/
def objectOf (members : List (Option String × JsonDocument)) : JsonDocument :=
  match members.mapM fun member ↦ member.1.map fun key ↦ (key, member.2) with
  | some members => .object members
  | none => .valueless

/-- The reader after the first piece of a value. -/
def startValue (outer : List Frame) : Lexeme → Option Reader
  | .token .null => some (afterValue .null outer)
  | .token (.bool value) => some (afterValue (.bool value) outer)
  | .token (.number value) => some (afterValue (.number value) outer)
  | .token (.string value) => some (afterValue (.string value) outer)
  | .token .arrayStart => some (.firstItem outer)
  | .token .objectStart => some (.firstKey outer)
  | .hugeNumber | .brokenString => some (afterValue .valueless outer)
  | _ => none

/-- The key that a piece is. -/
def key? : Lexeme → Option (Option String)
  | .token (.string key) => some (some key)
  | .brokenString => some none
  | _ => none

def step : Reader → Lexeme → Option Reader
  | .awaitValue outer, lexeme => startValue outer lexeme
  | .firstItem outer, .token .arrayEnd => some (afterNested (.array []) outer)
  | .firstItem outer, lexeme => startValue (.array [] :: outer) lexeme
  | .afterItem before outer, .token .comma => some (.awaitValue (.array before :: outer))
  | .afterItem before outer, .token .arrayEnd => some (afterNested (.array before.reverse) outer)
  | .firstKey outer, .token .objectEnd => some (afterNested (.object []) outer)
  | .firstKey outer, lexeme => (key? lexeme).map fun key ↦ .awaitColon [] key outer
  | .awaitKey before outer, lexeme => (key? lexeme).map fun key ↦ .awaitColon before key outer
  | .awaitColon before key outer, .token .colon =>
    some (.awaitValue (.object before key :: outer))
  | .afterMember before outer, .token .comma => some (.awaitKey before outer)
  | .afterMember before outer, .token .objectEnd =>
    some (afterNested (objectOf before.reverse) outer)
  | _, _ => none

/-- The document that is complete, if the reader awaits nothing more. -/
def document? : Reader → Option JsonDocument
  | .finished document => some document
  | _ => none

end Reader

def ofLexemes? (lexemes : List Lexeme) : Option JsonDocument :=
  (lexemes.foldlM Reader.step (.awaitValue [])).bind Reader.document?

def readDocument (text : String) : Option JsonDocument :=
  (readLexemes text.toList).bind ofLexemes?

/-- The value of a JSON text in canonical form. -/
def read (text : String) : Option Json :=
  (readDocument text).bind JsonDocument.freeValue?

end FieldTags.Json
