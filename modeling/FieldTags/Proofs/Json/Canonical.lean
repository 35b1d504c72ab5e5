import FieldTags.Json.Record
import Mathlib.Tactic.Common

/-!
# What is read from canonical values

A document can be read directly, or its value can be brought into canonical form and then be read.
What a reader of records finds directly, it also finds in the canonical form: sorting the members of
an object leaves the value of each, and a key of a record that is read directly stands there once, so
that no value of it gives way to another. The converse fails: only a direct reader sees that a key is
repeated.
-/

namespace FieldTags

section Keys

variable {α : Type} {key field : String} {value : α} {members : List (String × α)}

theorem filter_cons_of_key (h : key = field) :
    ((key, value) :: members).filter (·.1 = field) = (key, value) :: members.filter (·.1 = field) :=
  List.filter_cons_of_pos (decide_eq_true h)

theorem filter_cons_of_key_ne (h : key ≠ field) :
    ((key, value) :: members).filter (·.1 = field) = members.filter (·.1 = field) :=
  List.filter_cons_of_neg (ne_true_of_eq_false (decide_eq_false h))

/-- Without members of a key, the first member has another key. -/
theorem key_ne_of_filter_eq_nil (h : ((key, value) :: members).filter (·.1 = field) = []) :
    key ≠ field ∧ members.filter (·.1 = field) = [] := by
  by_cases hfield : key = field
  · rw [filter_cons_of_key hfield] at h
    cases h
  · rw [filter_cons_of_key_ne hfield] at h
    exact ⟨hfield, h⟩

end Keys

/-! ## Documents with a value -/

namespace JsonDocument

mutual

/-- A document that has a value has the form of this value. -/
theorem ofValue_of_value? : (document : JsonDocument) → {value : Json} →
    document.value? = some value → ofValue value = document
  | .null, _, h | .bool _, _, h | .number _, _, h | .string _, _, h => by
    cases h
    rfl
  | .array items, _, h => by
    rw [value?, Option.map_eq_some_iff] at h
    obtain ⟨values, hvalues, rfl⟩ := h
    rw [ofValue, ofItems_of_itemValues? items hvalues]
  | .object members, _, h => by
    rw [value?, Option.map_eq_some_iff] at h
    obtain ⟨values, hvalues, rfl⟩ := h
    rw [ofValue, ofMembers_of_memberValues? members hvalues]
  | .valueless, _, h => by cases h

theorem ofItems_of_itemValues? : (items : List JsonDocument) → {values : List Json} →
    itemValues? items = some values → ofItems values = items
  | [], _, h => by
    cases h
    rfl
  | item :: rest, _, h => by
    rw [itemValues?] at h
    split at h
    next hitem hrest =>
      cases h
      rw [ofItems, ofValue_of_value? item hitem, ofItems_of_itemValues? rest hrest]
    · cases h

theorem ofMembers_of_memberValues? : (members : List (String × JsonDocument)) →
    {values : List (String × Json)} → memberValues? members = some values →
      ofMembers values = members
  | [], _, h => by
    cases h
    rfl
  | (key, member) :: rest, _, h => by
    rw [memberValues?] at h
    split at h
    next hmember hrest =>
      cases h
      rw [ofMembers, ofValue_of_value? member hmember, ofMembers_of_memberValues? rest hrest]
    · cases h

end

/-- A document is whole exactly if it has a value. -/
theorem whole?_eq_some_iff {document other : JsonDocument} :
    document.whole? = some other ↔ document.value?.isSome ∧ document = other := by
  rw [whole?, Option.map_eq_some_iff]
  constructor
  · rintro ⟨value, hvalue, rfl⟩
    exact ⟨Option.isSome_of_eq_some hvalue, (ofValue_of_value? document hvalue).symm⟩
  · rintro ⟨hsome, rfl⟩
    obtain ⟨value, hvalue⟩ := Option.isSome_iff_exists.mp hsome
    exact ⟨value, hvalue, ofValue_of_value? document hvalue⟩

theorem freeValue?_of_value? {document : JsonDocument} {value : Json}
    (h : document.value? = some value) : document.freeValue? = some value.canonical := by
  rw [freeValue?, h, Option.map_some]

theorem exists_of_freeValue?_array {items : List JsonDocument} {value : Json}
    (h : (array items).freeValue? = some value) :
    ∃ values, itemValues? items = some values ∧ value = .array (Json.canonicalItems values) := by
  rw [freeValue?, value?, Option.map_map, Option.map_eq_some_iff] at h
  obtain ⟨values, hvalues, rfl⟩ := h
  exact ⟨values, hvalues, rfl⟩

theorem exists_of_freeValue?_object {members : List (String × JsonDocument)} {value : Json}
    (h : (object members).freeValue? = some value) :
    ∃ values, memberValues? members = some values ∧
      value = .object (Json.canonicalMembers [] values) := by
  rw [freeValue?, value?, Option.map_map, Option.map_eq_some_iff] at h
  obtain ⟨values, hvalues, rfl⟩ := h
  exact ⟨values, hvalues, rfl⟩

/-- The members of an object that has a value have values. -/
theorem exists_value?_of_mem {members : List (String × JsonDocument)}
    {values : List (String × Json)} (h : memberValues? members = some values) {key : String}
    {document : JsonDocument} (hmem : (key, document) ∈ members) :
    ∃ value, document.value? = some value := by
  rw [← ofMembers_of_memberValues? members h, ofMembers_eq_map] at hmem
  obtain ⟨member, -, hmember⟩ := List.mem_map.mp hmem
  cases hmember
  exact ⟨member.2, value?_ofValue member.2⟩

/-- The members of a key have the values of this key. -/
theorem memberValues?_filter (field : String) {members : List (String × JsonDocument)}
    {values : List (String × Json)} (h : memberValues? members = some values) :
    memberValues? (members.filter (·.1 = field)) = some (values.filter (·.1 = field)) := by
  induction members generalizing values with
  | nil =>
    cases h
    rfl
  | cons member rest ih =>
    obtain ⟨key, member⟩ := member
    rw [memberValues?] at h
    split at h
    next value others hmember hrest =>
      cases h
      by_cases hfield : key = field
      · rw [filter_cons_of_key hfield, filter_cons_of_key hfield, memberValues?, hmember, ih hrest]
      · rw [filter_cons_of_key_ne hfield, filter_cons_of_key_ne hfield, ih hrest]
    · cases h

end JsonDocument

/-! ## Canonical members -/

namespace Json

variable {key field : String} {value : Json} {sorted members : List (String × Json)}

theorem filter_insertMember_of_ne (h : key ≠ field) :
    (insertMember key value members).filter (·.1 = field) = members.filter (·.1 = field) := by
  induction members with
  | nil => exact filter_cons_of_key_ne h
  | cons member rest ih =>
    obtain ⟨other, member⟩ := member
    rw [insertMember]
    split_ifs with hkey hless
    · subst hkey
      rw [filter_cons_of_key_ne h, filter_cons_of_key_ne h]
    · exact filter_cons_of_key_ne h
    · rw [List.filter_cons, List.filter_cons, ih]

/-- A member of a new key is the only one of this key. -/
theorem filter_insertMember_self (h : members.filter (·.1 = key) = []) :
    (insertMember key value members).filter (·.1 = key) = [(key, value)] := by
  induction members with
  | nil => exact filter_cons_of_key rfl
  | cons member rest ih =>
    obtain ⟨other, member⟩ := member
    obtain ⟨hmember, hrest⟩ := key_ne_of_filter_eq_nil h
    rw [insertMember, if_neg fun heq ↦ hmember heq.symm]
    split_ifs
    · rw [filter_cons_of_key rfl, filter_cons_of_key_ne hmember, hrest]
    · rw [filter_cons_of_key_ne hmember, ih hrest]

theorem filter_canonicalMembers_of_nil (h : members.filter (·.1 = field) = []) :
    (canonicalMembers sorted members).filter (·.1 = field) = sorted.filter (·.1 = field) := by
  induction members generalizing sorted with
  | nil => rfl
  | cons member rest ih =>
    obtain ⟨other, member⟩ := member
    obtain ⟨hmember, hrest⟩ := key_ne_of_filter_eq_nil h
    rw [canonicalMembers, ih hrest, filter_insertMember_of_ne hmember]

/-- A member whose key stands there once keeps its value. -/
theorem filter_canonicalMembers_of_singleton (hsorted : sorted.filter (·.1 = field) = [])
    (h : members.filter (·.1 = field) = [(field, value)]) :
    (canonicalMembers sorted members).filter (·.1 = field) = [(field, value.canonical)] := by
  induction members generalizing sorted with
  | nil => cases h
  | cons member rest ih =>
    obtain ⟨other, member⟩ := member
    by_cases hmember : other = field
    · rw [filter_cons_of_key hmember] at h
      obtain ⟨hfirst, hrest⟩ := List.cons.inj h
      cases hfirst
      rw [canonicalMembers, filter_canonicalMembers_of_nil hrest, filter_insertMember_self hsorted]
    · rw [filter_cons_of_key_ne hmember] at h
      rw [canonicalMembers]
      exact ih (by rw [filter_insertMember_of_ne hmember, hsorted]) h

end Json

/-! ## Reading canonical values -/

namespace JsonDocument

variable {α : Type} {read : JsonDocument → Option α}

/-- What is read from a document is read from its canonical value. -/
def ReadsCanonical (read : JsonDocument → Option α) : Prop :=
  ∀ document value a, document.freeValue? = some value → read document = some a →
    read (ofValue value) = some a

theorem readsCanonical_string? : ReadsCanonical string? := by
  intro document value s hvalue hs
  cases document with
  | string text =>
    cases hvalue
    exact hs
  | _ => cases hs

theorem ReadsCanonical.mapM (h : ReadsCanonical read) {items : List JsonDocument}
    {values : List Json} {as : List α} (hvalues : itemValues? items = some values)
    (has : items.mapM read = some as) :
    (ofItems (Json.canonicalItems values)).mapM read = some as := by
  induction items generalizing values as with
  | nil =>
    cases hvalues
    exact has
  | cons item rest ih =>
    rw [itemValues?] at hvalues
    split at hvalues
    next value others hitem hrest =>
      cases hvalues
      rw [List.mapM_cons] at has
      obtain ⟨a, ha, htail⟩ := Option.bind_eq_some_iff.mp has
      obtain ⟨more, hmore, hlist⟩ := Option.bind_eq_some_iff.mp htail
      rw [Json.canonicalItems, ofItems, List.mapM_cons,
        h _ _ _ (freeValue?_of_value? hitem) ha, ih hrest hmore]
      exact hlist
    · cases hvalues

theorem ReadsCanonical.list? (h : ReadsCanonical read) : ReadsCanonical (list? read) := by
  intro document value as hvalue has
  cases document with
  | array items =>
    obtain ⟨values, hvalues, rfl⟩ := exists_of_freeValue?_array hvalue
    exact h.mapM hvalues has
  | _ => cases has

/-- What a canonical value says about a field of a record, given what the document says about it. -/
inductive Slot.Tidied : Slot → Slot → Prop where
  | given {document : JsonDocument} {value : Json} (h : document.freeValue? = some value) :
    Tidied (.given document) (.given (ofValue value))
  | unnamed : Tidied .unnamed .unnamed
  | beyond : Tidied .beyond .beyond

theorem filter_ofMembers (field : String) (members : List (String × Json)) :
    (ofMembers members).filter (·.1 = field) = ofMembers (members.filter (·.1 = field)) := by
  rw [ofMembers_eq_map, ofMembers_eq_map, List.filter_map]
  rfl

namespace Record

/-- What is said about the fields of a record in one list is said in canonical form in another. -/
abbrev TidiedAll : List (String × Slot) → List (String × Slot) → Prop :=
  List.Forall₂ fun slot tidied ↦ slot.1 = tidied.1 ∧ slot.2.Tidied tidied.2

theorem TidiedAll.lookup {slots tidied : List (String × Slot)} (h : TidiedAll slots tidied)
    (field : String) :
    ((slots.lookup field).getD .unnamed).Tidied ((tidied.lookup field).getD .unnamed) := by
  induction h with
  | nil => exact .unnamed
  | @cons slot other slots tidied hfirst _ ih =>
    obtain ⟨name, said⟩ := slot
    obtain ⟨other, saidToo⟩ := other
    obtain ⟨rfl, hsaid⟩ := hfirst
    rw [List.lookup_cons, List.lookup_cons]
    cases field == name with
    | true => exact hsaid
    | false => exact ih

/-- What an object says about a field, if it does not say it twice. -/
theorem slotOfMembers_cases {members : List (String × JsonDocument)} {field : String} {slot : Slot}
    (h : slotOfMembers members field = some slot) :
    (members.filter (·.1 = field) = [] ∧ slot = .unnamed) ∨
      ∃ document, members.filter (·.1 = field) = [(field, document)] ∧ slot = .given document := by
  unfold slotOfMembers at h
  split at h
  next hnone =>
    cases h
    exact .inl ⟨hnone, rfl⟩
  next member hone =>
    obtain ⟨key, document⟩ := member
    have hmem : (key, document) ∈ members.filter (·.1 = field) := hone ▸ List.mem_cons_self
    have hkey : key = field := of_decide_eq_true (List.mem_filter.mp hmem).2
    subst hkey
    cases h
    exact .inr ⟨document, hone, rfl⟩
  · cases h

/-- An object says something about a field exactly if it does not name the field twice. -/
theorem isSome_slotOfMembers_iff {members : List (String × JsonDocument)} {field : String} :
    (slotOfMembers members field).isSome = true ↔ (members.filter (·.1 = field)).length ≤ 1 := by
  unfold slotOfMembers
  generalize members.filter (·.1 = field) = chosen
  match chosen with
  | [] => exact iff_of_true rfl (Nat.zero_le 1)
  | [first] => exact iff_of_true rfl (Nat.le_refl 1)
  | first :: second :: others => exact iff_of_false Bool.false_ne_true (by simp)

/-- A record that is read from an object has of each field what the object says about it. -/
theorem slotOfMembers_eq {fields : List String} {members : List (String × JsonDocument)}
    {r : Record} (h : of? fields (.object members) = some r) {field : String}
    (hfield : field ∈ fields) : slotOfMembers members field = some (r.slot field) := by
  obtain ⟨slots, hslots, rfl⟩ := Option.map_eq_some_iff.mp h
  clear h
  induction fields generalizing slots with
  | nil => cases hfield
  | cons name rest ih =>
    rw [List.mapM_cons] at hslots
    obtain ⟨first, hfirst, htail⟩ := Option.bind_eq_some_iff.mp hslots
    obtain ⟨more, hmore, hslots⟩ := Option.bind_eq_some_iff.mp htail
    cases hslots
    obtain ⟨slot, hslot, rfl⟩ := Option.map_eq_some_iff.mp hfirst
    by_cases hname : field = name
    · subst hname
      rw [hslot, Record.slot, List.lookup_cons_self, Option.getD_some]
    · rw [ih ((List.mem_cons.mp hfield).resolve_left hname) more hmore, Record.slot, Record.slot,
        List.lookup_cons, beq_false_of_ne hname]

/-- A record is read from an object that says something about each of its fields. -/
theorem exists_of?_object {fields : List String} {members : List (String × JsonDocument)}
    (h : ∀ field ∈ fields, (slotOfMembers members field).isSome = true) :
    ∃ r, of? fields (.object members) = some r := by
  suffices hslots : ∃ slots, fields.mapM (fun field ↦
      (slotOfMembers members field).map fun slot ↦ (field, slot)) = some slots by
    obtain ⟨slots, hslots⟩ := hslots
    exact ⟨⟨slots⟩, Option.map_eq_some_iff.mpr ⟨slots, hslots, rfl⟩⟩
  induction fields with
  | nil => exact ⟨[], rfl⟩
  | cons field rest ih =>
    obtain ⟨slots, hslots⟩ := ih fun other hother ↦ h other (List.mem_cons_of_mem _ hother)
    obtain ⟨slot, hslot⟩ := Option.isSome_iff_exists.mp (h field List.mem_cons_self)
    refine ⟨(field, slot) :: slots, ?_⟩
    rw [List.mapM_cons, hslot, hslots]
    rfl

/-- A field that an object names once or not at all, it also has in canonical form. -/
theorem exists_slotOfMembers {members : List (String × JsonDocument)}
    {values : List (String × Json)} (hvalues : memberValues? members = some values)
    {field : String} {slot : Slot} (h : slotOfMembers members field = some slot) :
    ∃ tidied, slotOfMembers (ofMembers (Json.canonicalMembers [] values)) field = some tidied ∧
      slot.Tidied tidied := by
  have hchosen := memberValues?_filter field hvalues
  rcases slotOfMembers_cases h with ⟨hnone, rfl⟩ | ⟨document, hone, rfl⟩
  · rw [hnone] at hchosen
    have hempty : values.filter (·.1 = field) = [] := (Option.some.inj hchosen).symm
    refine ⟨.unnamed, ?_, .unnamed⟩
    rw [slotOfMembers, filter_ofMembers, Json.filter_canonicalMembers_of_nil hempty]
    rfl
  · rw [hone, memberValues?] at hchosen
    split at hchosen
    next value _ hvalue hnil =>
      cases hnil
      have hsingle : values.filter (·.1 = field) = [(field, value)] :=
        (Option.some.inj hchosen).symm
      refine ⟨.given (ofValue value.canonical), ?_, .given (freeValue?_of_value? hvalue)⟩
      rw [slotOfMembers, filter_ofMembers, Json.filter_canonicalMembers_of_singleton rfl hsingle]
      rfl
    · cases hchosen

theorem exists_slotsOfItems {fields : List String} {items : List JsonDocument}
    {values : List Json} (hvalues : itemValues? items = some values)
    {slots : List (String × Slot)} (h : slotsOfItems fields items = some slots) :
    ∃ tidied, slotsOfItems fields (ofItems (Json.canonicalItems values)) = some tidied ∧
      TidiedAll slots tidied := by
  induction fields generalizing items values slots with
  | nil =>
    cases items with
    | nil =>
      cases hvalues
      cases h
      exact ⟨[], rfl, .nil⟩
    | cons item rest => cases h
  | cons field fields ih =>
    cases items with
    | nil =>
      cases hvalues
      obtain ⟨more, hmore, rfl⟩ := Option.map_eq_some_iff.mp h
      obtain ⟨others, hothers, hall⟩ := ih rfl hmore
      refine ⟨(field, .beyond) :: others, ?_, .cons ⟨rfl, .beyond⟩ hall⟩
      exact Option.map_eq_some_iff.mpr ⟨others, hothers, rfl⟩
    | cons item rest =>
      obtain ⟨more, hmore, rfl⟩ := Option.map_eq_some_iff.mp h
      rw [itemValues?] at hvalues
      split at hvalues
      next value values hvalue hrest =>
        cases hvalues
        obtain ⟨others, hothers, hall⟩ := ih hrest hmore
        refine ⟨(field, .given (ofValue value.canonical)) :: others, ?_,
          .cons ⟨rfl, .given (freeValue?_of_value? hvalue)⟩ hall⟩
        exact Option.map_eq_some_iff.mpr ⟨others, hothers, rfl⟩
      · cases hvalues

/-- What a document says about the fields of a record, its canonical value says too. -/
theorem exists_of?_ofValue {fields : List String} {document : JsonDocument} {value : Json}
    (hvalue : document.freeValue? = some value) {r : Record} (h : of? fields document = some r) :
    ∃ tidied, of? fields (ofValue value) = some tidied ∧
      ∀ field ∈ fields, (r.slot field).Tidied (tidied.slot field) := by
  cases document with
  | object members =>
    obtain ⟨values, hvalues, rfl⟩ := exists_of_freeValue?_object hvalue
    have hslots {field : String} (hfield : field ∈ fields) :=
      exists_slotOfMembers hvalues (slotOfMembers_eq h hfield)
    obtain ⟨tidied, htidied⟩ :
        ∃ tidied, of? fields (ofValue (.object (Json.canonicalMembers [] values))) =
          some tidied := by
      refine exists_of?_object fun field hfield ↦ ?_
      obtain ⟨slot, hslot, -⟩ := hslots hfield
      exact Option.isSome_of_eq_some hslot
    refine ⟨tidied, htidied, fun field hfield ↦ ?_⟩
    obtain ⟨slot, hslot, hsaid⟩ := hslots hfield
    have hslotToo := slotOfMembers_eq htidied hfield
    rw [hslot] at hslotToo
    cases hslotToo
    exact hsaid
  | array items =>
    obtain ⟨values, hvalues, rfl⟩ := exists_of_freeValue?_array hvalue
    obtain ⟨slots, hslots, rfl⟩ := Option.map_eq_some_iff.mp h
    obtain ⟨tidied, htidied, hall⟩ := exists_slotsOfItems hvalues hslots
    exact ⟨⟨tidied⟩, Option.map_eq_some_iff.mpr ⟨tidied, htidied, rfl⟩,
      fun field _ ↦ hall.lookup field⟩
  | _ => cases h

theorem required_of_tidied {r tidied : Record} {field : String}
    (hslot : (r.slot field).Tidied (tidied.slot field)) (hread : ReadsCanonical read) {a : α}
    (h : r.required field read = some a) : tidied.required field read = some a := by
  rw [required] at h ⊢
  generalize r.slot field = said at hslot h
  generalize tidied.slot field = saidToo at hslot ⊢
  cases hslot with
  | given hvalue => exact hread _ _ _ hvalue h
  | unnamed => cases h
  | beyond => cases h

end Record

end JsonDocument

end FieldTags
