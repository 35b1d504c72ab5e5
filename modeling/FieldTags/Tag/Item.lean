import FieldTags.Tag.Value
import FieldTags.Text.Lowercase
import FieldTags.Text.Split

/-!
# Tags

A tag is a sequence of items separated by semicolons; a semicolon that belongs to an item is
doubled. An item is a key and a value around its first colon, or a key alone, which is a flag that
is set. Keys are trimmed and lowercase. Blank items are skipped, and so are items with a colon and
no key. A later item replaces the value of an earlier one with the same key and takes its place.
-/

namespace FieldTags

/-- The values of a tag by key. -/
abbrev TagMap := OrderedMap TagValue

namespace Tag

/-- The items of a tag, where the item that the tag starts with continues `before`, last first. -/
def splitItemsAfter (before : List Char) : List Char → List (List Char)
  | [] => [before.reverse]
  | ';' :: ';' :: rest => splitItemsAfter (';' :: before) rest
  | ';' :: rest => before.reverse :: splitItemsAfter [] rest
  | c :: rest => splitItemsAfter (c :: before) rest

/-- The items of a tag; there is always at least one. -/
def splitItems (tag : List Char) : List (List Char) :=
  splitItemsAfter [] tag

/-- What an item of a tag contributes. -/
inductive Item where
  | blank
  /-- Nothing: it has a colon and no key. -/
  | keyless
  | entry (key : String) (value : TagValue)
  deriving DecidableEq

/-- The trimmed lowercase form of a key. -/
def readKey (cs : List Char) : String :=
  Text.lowercase (String.ofList (Text.trimChars cs))

def Item.read (item : List Char) : Item :=
  if item.all Text.isBlank then .blank
  else
    match Text.splitFirst? ':' item with
    | none => .entry (readKey item) (.bool true)
    | some (key, value) =>
      let key := readKey key
      if key = "" then .keyless
      else .entry key (.read (String.ofList (Text.trimChars value)))

def Item.pair? : Item → Option (String × TagValue)
  | .entry key value => some (key, value)
  | _ => none

def entries (tag : String) : List (String × TagValue) :=
  (splitItems tag.toList).filterMap fun item ↦ (Item.read item).pair?

/-- The values of a tag by key. -/
def read (tag : String) : TagMap :=
  .ofList (entries tag)

/-- The items of a tag that are left out for want of a key. -/
def keylessItems (tag : String) : List String :=
  ((splitItems tag.toList).filter fun item ↦ Item.read item = .keyless).map String.ofList

/-- A text with every semicolon doubled. -/
def escape (s : List Char) : List Char :=
  s.flatMap fun c ↦ if c = ';' then [';', ';'] else [c]

/-- The item of a key and its value; a flag that is set is its key alone. -/
def writeItem (key : String) (value : TagValue) : String :=
  match value with
  | .bool true => key
  | other => key ++ ":" ++ String.ofList (escape other.toText.toList)

def toJson (m : TagMap) : Json :=
  .ofMap TagValue.toJson m

def ofDocument? (document : JsonDocument) : Option TagMap :=
  document.map? TagValue.ofDocument?

end Tag

end FieldTags
