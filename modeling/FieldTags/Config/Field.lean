import FieldTags.Note

/-!
# Field configurations

The configuration of a field gives a value to some of the attributes. Each attribute is read from
the value under its own key in the tag of the field and from nothing else; keys that belong to no
attribute have no effect.
-/

namespace FieldTags

/-- The configuration of a field: the values of the attributes that are set. -/
abbrev FieldConfig := (a : FieldAttribute) → Option a.Value

namespace FieldConfig

def empty : FieldConfig :=
  fun _ ↦ none

/-- The configuration that the values of a tag stand for. -/
def ofTag (tag : TagMap) : FieldConfig :=
  fun a ↦ (tag.find? a.key).bind a.kind.read

def attributeNotes (a : FieldAttribute) (value : TagValue) : List Note :=
  match a.kind, value with
  | .flag, .bool _ => []
  | .flag, value => [.readByTruthiness value a]
  | .number, value => if (AttributeKind.number.read value).isNone then [.notNumeric value a] else []
  | .list, .bool _ => [.flagForList]
  | _, _ => []

def ofTagNotes (tag : TagMap) : List Note :=
  FieldAttribute.all.flatMap fun a ↦ ((tag.find? a.key).map (attributeNotes a)).getD []

/-- The JSON form of a configuration, which names the attributes that are set. -/
def toJson (config : FieldConfig) : Json :=
  .ofOptionalMembers
    (FieldAttribute.all.map fun a ↦ (a.member, (config a).map (AttributeKind.toJson a.kind)))

/-- The value of an attribute in a record; null and absence leave it unset. -/
def readAttribute (r : JsonDocument.Record) (a : FieldAttribute) : Option (Option a.Value) :=
  r.defaulted a.member none (JsonDocument.nullable? (AttributeKind.ofDocument? a.kind))

def ofDocument? (document : JsonDocument) : Option FieldConfig :=
  match JsonDocument.Record.of? (FieldAttribute.all.map FieldAttribute.member) document with
  | none => none
  | some r =>
    if FieldAttribute.all.all fun a ↦ (readAttribute r a).isSome then
      some fun a ↦ (readAttribute r a).getD none
    else none

end FieldConfig

end FieldTags
