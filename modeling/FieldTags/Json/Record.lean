import FieldTags.Json.Document
import FieldTags.OrderedMap

/-!
# Reading records from JSON documents

A record is given by an object with a member per field, or by an array with the values of its fields
in declaration order. Members that name no field are passed over, and a field that is named twice makes
the record unreadable. A field may be required, may be optional, in which case null stands for its
absence, or may have a default. At the end of an array only fields with a default may be missing.

The readers of plain values convert nothing, except that an integer is accepted where a binary
number is asked for.
-/

namespace FieldTags

namespace JsonDocument

/-! ## Plain values -/

def bool? : JsonDocument → Option Bool
  | .bool value => some value
  | _ => none

def string? : JsonDocument → Option String
  | .string value => some value
  | _ => none

def binary64? : JsonDocument → Option Binary64
  | .number value => some value.toBinary64
  | _ => none

/-- An integer within closed bounds. -/
def int? (low high : Int) : JsonDocument → Option Int
  | .number (.integer value _) => if low ≤ value ∧ value ≤ high then some value else none
  | _ => none

def uint32? (value : JsonDocument) : Option UInt32 :=
  (value.int? 0 maxUInt32).map fun n ↦ UInt32.ofNat n.toNat

/-- An array whose items are all readable. -/
def list? {α : Type} (read : JsonDocument → Option α) : JsonDocument → Option (List α)
  | .array items => items.mapM read
  | _ => none

/--
An object whose values are all readable, with its keys in their order. Of equal keys the last value
counts, at the place of the first.
-/
def map? {α : Type} (read : JsonDocument → Option α) :
    JsonDocument → Option (OrderedMap α)
  | .object members =>
    (members.mapM fun member ↦ (read member.2).map fun value ↦ (member.1, value)).map
      OrderedMap.ofList
  | _ => none

/-- An object as a free value: its members in canonical form. -/
def members? : JsonDocument → Option (List (String × Json))
  | .object members => (memberValues? members).map (Json.canonicalMembers [])
  | _ => none

/-- Null as nothing, anything else as a value that has to be readable. -/
def nullable? {α : Type} (read : JsonDocument → Option α) :
    JsonDocument → Option (Option α)
  | .null => some none
  | value => (read value).map some

/-- A choice from a closed vocabulary: its name, or an object that maps its name to null. -/
def choice? {α : Type} (ofName? : String → Option α) : JsonDocument → Option α
  | .string name => ofName? name
  | .object [(name, .null)] => ofName? name
  | _ => none

/-! ## Records -/

/-- What a document says about one of the fields of a record. -/
inductive Slot where
  | given (value : JsonDocument)
  /-- An object without the field. -/
  | unnamed
  /-- An array that ends before the field. -/
  | beyond

/-- What a document says about a record. -/
structure Record where
  /-- What is said about each field. -/
  slots : List (String × Slot)

namespace Record

/-- What an object says about a field; none if it says it twice. -/
def slotOfMembers (members : List (String × JsonDocument)) (field : String) : Option Slot :=
  match members.filter (·.1 = field) with
  | [] => some .unnamed
  | [member] => some (.given member.2)
  | _ => none

/-- What an array says about each field in turn; none if it has more items than there are fields. -/
def slotsOfItems : List String → List JsonDocument → Option (List (String × Slot))
  | [], [] => some []
  | [], _ :: _ => none
  | field :: fields, [] => (slotsOfItems fields []).map ((field, .beyond) :: ·)
  | field :: fields, item :: items =>
    (slotsOfItems fields items).map ((field, .given item) :: ·)

/-- What a document says about a record with the given fields, in declaration order. -/
def of? (fields : List String) : JsonDocument → Option Record
  | .object members =>
    (fields.mapM fun field ↦ (slotOfMembers members field).map fun slot ↦ (field, slot)).map
      Record.mk
  | .array items => (slotsOfItems fields items).map Record.mk
  | _ => none

def slot (r : Record) (field : String) : Slot :=
  (r.slots.lookup field).getD .unnamed

def required {α : Type} (r : Record) (field : String) (read : JsonDocument → Option α) :
    Option α :=
  match r.slot field with
  | .given value => read value
  | _ => none

/-- A field that may be left out of an object or be null. -/
def optional {α : Type} (r : Record) (field : String) (read : JsonDocument → Option α) :
    Option (Option α) :=
  match r.slot field with
  | .given value => nullable? read value
  | .unnamed => some none
  | .beyond => none

def defaulted {α : Type} (r : Record) (field : String) (default : α)
    (read : JsonDocument → Option α) : Option α :=
  match r.slot field with
  | .given value => read value
  | _ => some default

end Record

end JsonDocument

namespace Json

/-- The object of the members that are there, in order. -/
def ofOptionalMembers (members : List (String × Option Json)) : Json :=
  .object (members.filterMap fun member ↦ member.2.map fun value ↦ (member.1, value))

/-- The JSON form of a map, in its own order. -/
def ofMap {α : Type} (toJson : α → Json) (m : OrderedMap α) : Json :=
  .object (m.entries.map fun entry ↦ (entry.1, toJson entry.2))

end Json

end FieldTags
