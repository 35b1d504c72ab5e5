import FieldTags.Json.Record

/-!
# What requests and replies carry

The bodies of requests and the data of replies. Records are known by an integer or a text, and their
fields are free JSON values.
-/

namespace FieldTags

/-- What a record is known by. -/
inductive RecordId where
  | integer (value : Int64)
  | text (value : String)
  deriving DecidableEq

namespace RecordId

/-- The identifier of a record that has none yet. -/
def blank : RecordId := .text ""

def toText : RecordId → String
  | .integer n => toString n.toInt
  | .text s => s

def toJson : RecordId → Json
  | .integer n => .ofInt n.toInt
  | .text s => .string s

def ofDocument? : JsonDocument → Option RecordId
  | .string s => some (.text s)
  | document => (document.int? minInt64 maxInt64).map fun n ↦ .integer (.ofInt n)

end RecordId

/-- What is asked for when the records of a model are listed. -/
structure ListQuery where
  model : String
  page : UInt32
  pageSize : UInt32
  /-- The field to sort by and the direction. -/
  sort : Option String
  /-- The values that fields have to have, sorted by field. -/
  filters : Option (List (String × Json))

namespace ListQuery

/-- The first ten records of a model. -/
def ofModel (model : String) : ListQuery :=
  ⟨model, 1, 10, none, none⟩

def onPage (q : ListQuery) (page pageSize : UInt32) : ListQuery :=
  { q with page := page, pageSize := pageSize }

def sortedBy (q : ListQuery) (field : String) (descending : Bool) : ListQuery :=
  { q with sort := some (field ++ if descending then "_desc" else "_asc") }

def having (q : ListQuery) (field : String) (value : Json) : ListQuery :=
  { q with filters := some (Json.insertMember field value (q.filters.getD [])) }

def toJson (q : ListQuery) : Json :=
  .ofOptionalMembers [("model_name", some (.string q.model)), ("page", some (.ofUInt32 q.page)),
    ("page_size", some (.ofUInt32 q.pageSize)), ("sort", q.sort.map .string),
    ("filters", q.filters.map .object)]

def ofDocument? (document : JsonDocument) : Option ListQuery := do
  let r ← JsonDocument.Record.of? ["model_name", "page", "page_size", "sort", "filters"] document
  return {
    model := ← r.required "model_name" JsonDocument.string?
    page := ← r.required "page" JsonDocument.uint32?
    pageSize := ← r.required "page_size" JsonDocument.uint32?
    sort := ← r.optional "sort" JsonDocument.string?
    filters := ← r.optional "filters" JsonDocument.members? }

end ListQuery

/-- A record to be added. -/
structure NewRecord where
  model : String
  /-- The fields, sorted. -/
  data : List (String × Json)

namespace NewRecord

def toJson (r : NewRecord) : Json :=
  .object [("model_name", .string r.model), ("data", .object r.data)]

def ofDocument? (document : JsonDocument) : Option NewRecord := do
  let r ← JsonDocument.Record.of? ["model_name", "data"] document
  return ⟨← r.required "model_name" JsonDocument.string?, ← r.required "data" JsonDocument.members?⟩

end NewRecord

/-- A record to be changed; its identifier is no field. -/
structure ChangedRecord where
  model : String
  id : RecordId
  /-- The fields that change, sorted. -/
  data : List (String × Json)

namespace ChangedRecord

def toJson (r : ChangedRecord) : Json :=
  .object [("model_name", .string r.model), ("id", r.id.toJson), ("data", .object r.data)]

def ofDocument? (document : JsonDocument) : Option ChangedRecord := do
  let r ← JsonDocument.Record.of? ["model_name", "id", "data"] document
  return ⟨← r.required "model_name" JsonDocument.string?, ← r.required "id" RecordId.ofDocument?,
    ← r.required "data" JsonDocument.members?⟩

end ChangedRecord

/-- Records to be deleted. -/
structure DeletedRecords where
  model : String
  ids : List RecordId
  deriving DecidableEq

namespace DeletedRecords

def toJson (r : DeletedRecords) : Json :=
  .object [("model_name", .string r.model), ("ids", .array (r.ids.map RecordId.toJson))]

def ofDocument? (document : JsonDocument) : Option DeletedRecords := do
  let r ← JsonDocument.Record.of? ["model_name", "ids"] document
  return ⟨← r.required "model_name" JsonDocument.string?,
    ← r.required "ids" (JsonDocument.list? RecordId.ofDocument?)⟩

end DeletedRecords

/-- A page of the records of a model. -/
structure RecordPage where
  records : List Json
  /-- The number of all records. -/
  total : UInt64

namespace RecordPage

def empty : RecordPage := ⟨[], 0⟩

def toJson (p : RecordPage) : Json :=
  .object [("list", .array p.records), ("total", .ofInt p.total.toNat)]

def ofDocument? (document : JsonDocument) : Option RecordPage := do
  let r ← JsonDocument.Record.of? ["list", "total"] document
  return {
    records := ← r.required "list" (JsonDocument.list? JsonDocument.freeValue?)
    total := ← r.required "total" fun total ↦
      (total.int? 0 maxUInt64).map fun n ↦ UInt64.ofNat n.toNat }

end RecordPage

/-- An option of a field to choose from. -/
structure FieldOption where
  value : RecordId
  label : String
  disabled : Option Bool
  color : Option String
  deriving DecidableEq

namespace FieldOption

def toJson (o : FieldOption) : Json :=
  .ofOptionalMembers [("value", some o.value.toJson), ("label", some (.string o.label)),
    ("disabled", o.disabled.map .bool), ("color", o.color.map .string)]

def ofDocument? (document : JsonDocument) : Option FieldOption := do
  let r ← JsonDocument.Record.of? ["value", "label", "disabled", "color"] document
  return {
    value := ← r.required "value" RecordId.ofDocument?
    label := ← r.required "label" JsonDocument.string?
    disabled := ← r.defaulted "disabled" none (JsonDocument.nullable? JsonDocument.bool?)
    color := ← r.defaulted "color" none (JsonDocument.nullable? JsonDocument.string?) }

end FieldOption

end FieldTags
