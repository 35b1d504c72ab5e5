import FieldTags.Proofs.Json.RecordFields
import FieldTags.Proofs.OrderedMap
import Mathlib.Data.List.Basic

/-!
# Reading written records

An object with a member for each field that is set is read back field by field, as long as no two
fields have one name. Lists and maps whose values are read back are read back as a whole, a map with
its keys in their order.
-/

namespace FieldTags

/-! ## Members of distinct names -/

section Members

variable {α β : Type} {name : α → String}

/-- What is written item by item is read item by item. -/
theorem mapM_map_of_read {write : α → β} {read : β → Option α} {xs : List α}
    (h : ∀ x ∈ xs, read (write x) = some x) : (xs.map write).mapM read = some xs := by
  induction xs with
  | nil => rfl
  | cons x xs ih =>
    have hx := h x List.mem_cons_self
    have hxs := ih fun y hy ↦ h y (List.mem_cons_of_mem _ hy)
    rw [List.map_cons, List.mapM_cons, hx, hxs]
    rfl

/-- The members of those things that have a value. -/
def givenMembers (name : α → String) (value : α → Option β) (xs : List α) : List (String × β) :=
  xs.filterMap fun x ↦ (value x).map fun given ↦ (name x, given)

theorem givenMembers_cons_of_none {value : α → Option β} {x : α} (h : value x = none)
    (xs : List α) : givenMembers name value (x :: xs) = givenMembers name value xs := by
  rw [givenMembers, List.filterMap_cons, h]
  rfl

theorem givenMembers_cons_of_some {value : α → Option β} {x : α} {given : β}
    (h : value x = some given) (xs : List α) :
    givenMembers name value (x :: xs) = (name x, given) :: givenMembers name value xs := by
  rw [givenMembers, List.filterMap_cons, h]
  rfl

theorem keys_givenMembers_sublist (value : α → Option β) (xs : List α) :
    ((givenMembers name value xs).map Prod.fst).Sublist (xs.map name) := by
  induction xs with
  | nil => exact List.Sublist.refl _
  | cons x xs ih =>
    cases hvalue : value x with
    | none =>
      rw [givenMembers_cons_of_none hvalue]
      exact ih.cons _
    | some given =>
      rw [givenMembers_cons_of_some hvalue]
      exact ih.cons_cons _

theorem lookup_givenMembers {value : α → Option β} {xs : List α} (h : (xs.map name).Nodup) {x : α}
    (hx : x ∈ xs) : (givenMembers name value xs).lookup (name x) = value x := by
  induction xs with
  | nil => exact absurd hx List.not_mem_nil
  | cons y ys ih =>
    rw [List.map_cons, List.nodup_cons] at h
    by_cases hname : name x = name y
    · obtain rfl : x = y := by
        rcases List.mem_cons.mp hx with hx | hx
        · exact hx
        · exact absurd (hname ▸ List.mem_map_of_mem hx) h.1
      cases hvalue : value x with
      | some given =>
        rw [givenMembers_cons_of_some hvalue]
        exact List.lookup_cons_self
      | none =>
        -- No other attribute has this name, so there is no member of it at all.
        rw [givenMembers_cons_of_none hvalue, List.lookup_eq_none_iff]
        intro member hmember
        have hkey := (keys_givenMembers_sublist value ys).subset (List.mem_map_of_mem hmember)
        apply bne_iff_ne.mpr
        intro heq
        rw [← heq] at hkey
        exact h.1 hkey
    · have hys : x ∈ ys := List.mem_of_ne_of_mem (fun heq ↦ hname (congrArg name heq)) hx
      cases hvalue : value y with
      | none =>
        rw [givenMembers_cons_of_none hvalue]
        exact ih h.2 hys
      | some given =>
        have hskip : (name x == name y) = false := beq_eq_false_iff_ne.mpr hname
        rw [givenMembers_cons_of_some hvalue, List.lookup_cons, hskip]
        exact ih h.2 hys

end Members

namespace JsonDocument

/-! ## Records -/

def Slot.ofMember? : Option Json → Slot
  | some value => .given (ofValue value)
  | none => .unnamed

namespace Record

theorem lookup_ofMembers (members : List (String × Json)) (field : String) :
    (ofMembers members).lookup field = (members.lookup field).map ofValue := by
  induction members with
  | nil => rfl
  | cons member members ih =>
    rw [ofMembers, List.lookup_cons, List.lookup_cons]
    cases field == member.1 with
    | true => rfl
    | false => exact ih

/-- A written object says about each field what its member says. -/
theorem of?_ofValue_object (fields : List String) {members : List (String × Json)}
    (h : (members.map Prod.fst).Nodup) :
    ∃ r, of? fields (ofValue (.object members)) = some r ∧
      ∀ field ∈ fields, r.slot field = .ofMember? (members.lookup field) := by
  have hkeys : ((ofMembers members).map Prod.fst).Nodup := by
    rw [ofMembers_eq_map, List.map_map]
    exact h
  obtain ⟨r, hr, hslot⟩ := exists_of?_of_nodup hkeys fields
  refine ⟨r, hr, fun field hfield ↦ ?_⟩
  rw [hslot field hfield, lookup_ofMembers]
  cases members.lookup field with
  | none => rfl
  | some value => rfl

/-- A written record says about each attribute what its value is, if it is set. -/
theorem of?_ofOptionalMembers {α : Type} {attributes : List α} {name : α → String}
    (value : α → Option Json) (h : (attributes.map name).Nodup) :
    ∃ r, of? (attributes.map name) (ofValue
        (.ofOptionalMembers (attributes.map fun a ↦ (name a, value a)))) = some r ∧
      ∀ a ∈ attributes, r.slot (name a) = .ofMember? (value a) := by
  have hmembers : Json.ofOptionalMembers (attributes.map fun a ↦ (name a, value a)) =
      .object (givenMembers name value attributes) := by
    rw [Json.ofOptionalMembers, List.filterMap_map]
    rfl
  have hkeys := (keys_givenMembers_sublist value attributes).nodup h
  obtain ⟨r, hr, hslot⟩ := of?_ofValue_object (attributes.map name) hkeys
  refine ⟨r, hmembers ▸ hr, ?_⟩
  intro a ha
  rw [hslot _ (List.mem_map_of_mem ha), lookup_givenMembers h ha]

/-! ## Fields -/

section Fields

variable {α : Type} {r : Record} {field : String} {read : JsonDocument → Option α}

theorem defaulted_of_given {default value : α} {member : Json}
    (hslot : r.slot field = .ofMember? (some member)) (h : read (ofValue member) = some value) :
    r.defaulted field default read = some value := by
  rw [defaulted, hslot]
  exact h

theorem required_of_given {value : α} {member : Json}
    (hslot : r.slot field = .ofMember? (some member)) (h : read (ofValue member) = some value) :
    r.required field read = some value := by
  rw [required, hslot]
  exact h

end Fields

end Record

section Values

variable {α : Type} {read : JsonDocument → Option α}

/-- What is readable and not null is read in the place of something that may be null. -/
theorem nullable?_of_read (hnull : read .null = none) {document : JsonDocument} {value : α}
    (h : read document = some value) : nullable? read document = some (some value) := by
  cases document
  case null => cases hnull.symm.trans h
  all_goals
    rw [nullable?, h]
    · rfl
    · exact nofun

/-- An attribute that may be unset is read back if its value is. -/
theorem Record.defaulted_nullable (hnull : read .null = none) {r : Record} {field : String}
    {value : Option α} {toJson : α → Json} (hslot : r.slot field = .ofMember? (value.map toJson))
    (h : ∀ given ∈ value, read (ofValue (toJson given)) = some given) :
    r.defaulted field none (nullable? read) = some value := by
  cases value with
  | none =>
    rw [defaulted, hslot]
    rfl
  | some given => exact defaulted_of_given hslot (nullable?_of_read hnull (h given rfl))

theorem list?_ofValue {items : List α} {toJson : α → Json}
    (h : ∀ item ∈ items, read (ofValue (toJson item)) = some item) :
    list? read (ofValue (.array (items.map toJson))) = some items := by
  rw [ofValue, ofItems_eq_map, List.map_map]
  exact mapM_map_of_read h

/-- A written map is read back with its keys in their order. -/
theorem map?_ofMap {m : OrderedMap α} {toJson : α → Json}
    (h : ∀ entry ∈ m.entries, read (ofValue (toJson entry.2)) = some entry.2) :
    map? read (ofValue (.ofMap toJson m)) = some m := by
  have hentries : (ofMembers (m.entries.map fun entry ↦ (entry.1, toJson entry.2))).mapM
      (fun member ↦ (read member.2).map fun value ↦ (member.1, value)) = some m.entries := by
    rw [ofMembers_eq_map, List.map_map]
    apply mapM_map_of_read
    intro entry hentry
    change (read (ofValue (toJson entry.2))).map _ = _
    rw [h entry hentry]
    rfl
  have hmap : OrderedMap.ofList m.entries = m := by
    apply OrderedMap.ext_entries
    exact OrderedMap.entries_ofList m.nodup_keys
  rw [Json.ofMap, ofValue, map?, hentries, Option.map_some, hmap]

end Values

end JsonDocument

end FieldTags
