/-!
# Tokens of YAML text

The marks and scalars that YAML text consists of. How far lines are indented shows where blocks start
and end, and this is written out as tokens of its own.
-/

namespace FieldTags.Yaml

/-- How a scalar is written. -/
inductive ScalarStyle
  | plain
  | quoted
  /-- As a block whose lines stay as they are. -/
  | literal
  /-- As a block whose lines are joined. -/
  | folded
deriving DecidableEq

/-- A token of YAML text. -/
inductive Token
  | version (major minor : Nat)
  /-- What the handle of a tag stands for. -/
  | tagHandle (handle expansion : String)
  | documentStart
  | documentEnd
  | blockListStart
  | blockMapStart
  | blockEnd
  | flowListStart
  | flowListEnd
  | flowMapStart
  | flowMapEnd
  /-- The dash in front of an item of a list. -/
  | blockEntry
  /-- The comma in brackets or braces. -/
  | flowEntry
  /-- The place in front of a key. -/
  | key
  /-- The colon in front of a value. -/
  | value
  | alias (name : String)
  | anchor (name : String)
  /-- The tag of the node that follows; the handle may be empty. -/
  | tag (handle suffix : String)
  | scalar (style : ScalarStyle) (text : String)
deriving DecidableEq

end FieldTags.Yaml
