import FieldTags.Json.Basic

/-!
# JSON documents

A document is what a JSON text has the form of. It differs from a value in two ways. Its members stand
in the order of the text and with its repetitions, and it may hold parts that are well formed and yet
stand for no value: numbers beyond the finite ones, strings with half a surrogate pair, and what is
nested too deeply. Whoever reads a document may pass over such a part, but the document as a whole has
a value only if it has none.
-/

namespace FieldTags

/-- What a JSON text has the form of. -/
inductive JsonDocument where
  | null
  | bool (value : Bool)
  | number (value : JsonNumber)
  | string (value : String)
  | array (items : List JsonDocument)
  | object (members : List (String × JsonDocument))
  /-- A part that stands for no value. -/
  | valueless

namespace JsonDocument

instance : Inhabited JsonDocument := ⟨.null⟩

mutual

/-- The document that has the form of a value. -/
def ofValue : Json → JsonDocument
  | .null => .null
  | .bool value => .bool value
  | .number value => .number value
  | .string value => .string value
  | .array items => .array (ofItems items)
  | .object members => .object (ofMembers members)

def ofItems : List Json → List JsonDocument
  | [] => []
  | item :: rest => ofValue item :: ofItems rest

def ofMembers : List (String × Json) → List (String × JsonDocument)
  | [] => []
  | (key, value) :: rest => (key, ofValue value) :: ofMembers rest

end

mutual

/-- The value of a document, with its members as they stand. -/
def value? : JsonDocument → Option Json
  | .null => some .null
  | .bool value => some (.bool value)
  | .number value => some (.number value)
  | .string value => some (.string value)
  | .array items => (itemValues? items).map .array
  | .object members => (memberValues? members).map .object
  | .valueless => none

def itemValues? : List JsonDocument → Option (List Json)
  | [] => some []
  | item :: rest =>
    match item.value?, itemValues? rest with
    | some value, some values => some (value :: values)
    | _, _ => none

def memberValues? : List (String × JsonDocument) → Option (List (String × Json))
  | [] => some []
  | (key, member) :: rest =>
    match member.value?, memberValues? rest with
    | some value, some values => some ((key, value) :: values)
    | _, _ => none

end

mutual

theorem value?_ofValue : (value : Json) → (ofValue value).value? = some value
  | .null | .bool _ | .number _ | .string _ => by simp [ofValue, value?]
  | .array items => by simp [ofValue, value?, itemValues?_ofItems items]
  | .object members => by simp [ofValue, value?, memberValues?_ofMembers members]

theorem itemValues?_ofItems : (items : List Json) → itemValues? (ofItems items) = some items
  | [] => by simp [ofItems, itemValues?]
  | item :: rest => by
    simp [ofItems, itemValues?, value?_ofValue item, itemValues?_ofItems rest]

theorem memberValues?_ofMembers :
    (members : List (String × Json)) → memberValues? (ofMembers members) = some members
  | [] => by simp [ofMembers, memberValues?]
  | (key, value) :: rest => by
    simp [ofMembers, memberValues?, value?_ofValue value, memberValues?_ofMembers rest]

end

theorem ofItems_eq_map (items : List Json) : ofItems items = items.map ofValue := by
  induction items with
  | nil => rfl
  | cons item items ih => rw [ofItems, ih, List.map_cons]

theorem ofMembers_eq_map (members : List (String × Json)) :
    ofMembers members = members.map fun member ↦ (member.1, ofValue member.2) := by
  induction members with
  | nil => rfl
  | cons member members ih => rw [ofMembers, ih, List.map_cons]

/-- The document if it has a value as a whole. -/
def whole? (document : JsonDocument) : Option JsonDocument :=
  document.value?.map ofValue

/-- The value of a document in canonical form. -/
def freeValue? (document : JsonDocument) : Option Json :=
  document.value?.map Json.canonical

end JsonDocument

end FieldTags
