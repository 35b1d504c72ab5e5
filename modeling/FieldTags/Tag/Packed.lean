import FieldTags.OrderedMap
import FieldTags.Text.Blank
import FieldTags.Text.Split

/-!
# Lists and pairs inside one value

The text of a tag value can itself hold a list, separated by commas, or pairs of the form
`key=value`, separated by semicolons. Blanks around items, keys and values do not count. Empty items
and pairs without a key are left out.
-/

namespace FieldTags.Packed

def readList (s : String) : List String :=
  ((Text.split ',' s).map Text.trim).filter (· ≠ "")

/-- The pair that one piece holds; a piece without `=` or without a key holds none. -/
def readPair? (piece : List Char) : Option (String × String) :=
  match Text.splitFirst? '=' piece with
  | none => none
  | some (key, value) =>
    let key := String.ofList (Text.trimChars key)
    if key = "" then none else some (key, String.ofList (Text.trimChars value))

/-- The pairs of a text in order; with `needsValue`, those with an empty value are left out. -/
def pairs (needsValue : Bool) (s : String) : List (String × String) :=
  ((Text.splitAll ';' s.toList).filterMap readPair?).filter fun pair ↦
    !(needsValue && pair.2 == "")

def readMap (needsValue : Bool) (s : String) : OrderedMap String :=
  .ofList (pairs needsValue s)

end FieldTags.Packed
