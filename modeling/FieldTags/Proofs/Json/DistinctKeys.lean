import FieldTags.Proofs.Json.RecordFields
import FieldTags.Proofs.Json.Sorting

/-!
# Documents without repeated keys

A document can be read directly, or its value can be brought into canonical form and then be read.
If no object of the document has a key twice, nothing gives way when the value is brought into
canonical form, and both ways read the same: they find the same, and they fail together.
-/

namespace FieldTags

namespace JsonDocument

/-- No object within the document has a key twice. -/
inductive HasDistinctKeys : JsonDocument → Prop where
  | null : HasDistinctKeys .null
  | bool (value : Bool) : HasDistinctKeys (.bool value)
  | number (value : JsonNumber) : HasDistinctKeys (.number value)
  | string (value : String) : HasDistinctKeys (.string value)
  | array {items : List JsonDocument} (hitems : ∀ item ∈ items, HasDistinctKeys item) :
    HasDistinctKeys (.array items)
  | object {members : List (String × JsonDocument)} (hkeys : (members.map Prod.fst).Nodup)
    (hmembers : ∀ member ∈ members, HasDistinctKeys member.2) : HasDistinctKeys (.object members)
  | valueless : HasDistinctKeys .valueless

variable {α : Type} {read : JsonDocument → Option α}

/-- What is read from a document without repeated keys is what is read from its canonical value. -/
def ReadsValue (read : JsonDocument → Option α) : Prop :=
  ∀ document value, document.HasDistinctKeys → document.freeValue? = some value →
    read (ofValue value) = read document

/-! ## Plain values, lists and free values -/

/-- A reader that reads neither arrays nor objects sees no keys. -/
theorem readsValue_of_plain (harray : ∀ items, read (.array items) = none)
    (hobject : ∀ members, read (.object members) = none) : ReadsValue read := by
  intro document value _ hvalue
  cases document with
  | array items =>
    obtain ⟨values, -, rfl⟩ := exists_of_freeValue?_array hvalue
    exact (harray _).trans (harray items).symm
  | object members =>
    obtain ⟨values, -, rfl⟩ := exists_of_freeValue?_object hvalue
    exact (hobject _).trans (hobject members).symm
  | null | bool _ | number _ | string _ =>
    cases hvalue
    rfl
  | valueless => cases hvalue

theorem readsValue_string? : ReadsValue string? :=
  readsValue_of_plain (fun _ ↦ rfl) fun _ ↦ rfl

theorem readsValue_int? (low high : Int) : ReadsValue (int? low high) :=
  readsValue_of_plain (fun _ ↦ rfl) fun _ ↦ rfl

theorem ReadsValue.mapM (h : ReadsValue read) {items : List JsonDocument} {values : List Json}
    (hitems : ∀ item ∈ items, item.HasDistinctKeys) (hvalues : itemValues? items = some values) :
    (ofItems (Json.canonicalItems values)).mapM read = items.mapM read := by
  induction items generalizing values with
  | nil =>
    cases hvalues
    rfl
  | cons item rest ih =>
    rw [itemValues?] at hvalues
    split at hvalues
    next value others hitem hrest =>
      cases hvalues
      have hfirst := h item _ (hitems item List.mem_cons_self) (freeValue?_of_value? hitem)
      have hothers := ih (fun other hother ↦ hitems other (List.mem_cons_of_mem item hother)) hrest
      rw [Json.canonicalItems, ofItems, List.mapM_cons, List.mapM_cons, hfirst, hothers]
    · cases hvalues

theorem ReadsValue.list? (h : ReadsValue read) : ReadsValue (list? read) := by
  intro document value hkeys hvalue
  cases document with
  | array items =>
    obtain ⟨values, hvalues, rfl⟩ := exists_of_freeValue?_array hvalue
    cases hkeys with
    | array hitems => exact h.mapM hitems hvalues
  | object members =>
    obtain ⟨values, -, rfl⟩ := exists_of_freeValue?_object hvalue
    rfl
  | null | bool _ | number _ | string _ =>
    cases hvalue
    rfl
  | valueless => cases hvalue

theorem ReadsValue.map {β : Type} (h : ReadsValue read) (f : α → β) :
    ReadsValue fun document ↦ (read document).map f := by
  intro document value hkeys hvalue
  exact congrArg (Option.map f) (h document value hkeys hvalue)

theorem readsValue_freeValue? : ReadsValue freeValue? := by
  intro document value _ hvalue
  rw [hvalue]
  obtain ⟨given, -, rfl⟩ := Option.map_eq_some_iff.mp hvalue
  rw [freeValue?, value?_ofValue, Option.map_some, Json.canonical_canonical]

/-! ## Records -/

/-- What is said about a field of a record by a document without repeated keys and by its value. -/
inductive Slot.SaidAlike : Slot → Slot → Prop where
  | given {document : JsonDocument} {value : Json} (hkeys : document.HasDistinctKeys)
    (hvalue : document.freeValue? = some value) :
    SaidAlike (.given document) (.given (ofValue value))
  | unnamed : SaidAlike .unnamed .unnamed
  | beyond : SaidAlike .beyond .beyond

theorem Slot.Tidied.saidAlike {slot tidied : Slot} (h : slot.Tidied tidied)
    (hkeys : ∀ document, slot = .given document → document.HasDistinctKeys) :
    slot.SaidAlike tidied := by
  cases h with
  | given hvalue => exact .given (hkeys _ rfl) hvalue
  | unnamed => exact .unnamed
  | beyond => exact .beyond

namespace Record

variable {fields : List String} {r tidied : Record} {field : String} {document : JsonDocument}

theorem mem_of_lookup_slotsOfItems {items : List JsonDocument} {slots : List (String × Slot)}
    (h : slotsOfItems fields items = some slots)
    (hfound : slots.lookup field = some (.given document)) : document ∈ items := by
  induction fields generalizing items slots with
  | nil =>
    cases items with
    | nil =>
      cases h
      cases hfound
    | cons item rest => cases h
  | cons name fields ih =>
    cases items with
    | nil =>
      obtain ⟨more, hmore, rfl⟩ := Option.map_eq_some_iff.mp h
      rw [List.lookup_cons] at hfound
      split at hfound
      · cases hfound
      · exact ih hmore hfound
    | cons item rest =>
      obtain ⟨more, hmore, rfl⟩ := Option.map_eq_some_iff.mp h
      rw [List.lookup_cons] at hfound
      split at hfound
      · cases hfound
        exact List.mem_cons_self
      · exact List.mem_cons_of_mem item (ih hmore hfound)

/-- What a document without repeated keys says about a field has no repeated keys. -/
theorem hasDistinctKeys_of_slot {source : JsonDocument} (hkeys : source.HasDistinctKeys)
    (h : of? fields source = some r) (hfield : field ∈ fields)
    (hslot : r.slot field = .given document) : document.HasDistinctKeys := by
  cases hkeys with
  | object _ hmembers =>
    rcases slot_cases h hfield with hunnamed | ⟨other, hmem, hgiven⟩
    · rw [hunnamed] at hslot
      cases hslot
    · rw [hgiven] at hslot
      cases hslot
      exact hmembers _ hmem
  | array hitems =>
    obtain ⟨slots, hslots, rfl⟩ := Option.map_eq_some_iff.mp h
    have hfound : slots.lookup field = some (.given document) := by
      rw [slot] at hslot
      cases hlookup : slots.lookup field with
      | none =>
        rw [hlookup] at hslot
        cases hslot
      | some said =>
        rw [hlookup] at hslot
        exact congrArg some hslot
    exact hitems document (mem_of_lookup_slotsOfItems hslots hfound)
  | null | bool _ | number _ | string _ | valueless => cases h

theorem slotsOfItems_eq_none {fields : List String} {items : List JsonDocument} :
    slotsOfItems fields items = none ↔ fields.length < items.length := by
  induction fields generalizing items with
  | nil =>
    cases items with
    | nil => exact iff_of_false nofun (Nat.lt_irrefl 0)
    | cons item rest => exact iff_of_true rfl (Nat.succ_pos _)
  | cons field fields ih =>
    cases items with
    | nil =>
      rw [slotsOfItems, Option.map_eq_none_iff, ih]
      exact iff_of_false (Nat.not_lt_zero _) (Nat.not_lt_zero _)
    | cons item rest =>
      rw [slotsOfItems, Option.map_eq_none_iff, ih]
      exact Nat.succ_lt_succ_iff.symm

theorem length_of_itemValues? {items : List JsonDocument} {values : List Json}
    (h : itemValues? items = some values) :
    (ofItems (Json.canonicalItems values)).length = items.length := by
  induction items generalizing values with
  | nil =>
    cases h
    rfl
  | cons item rest ih =>
    rw [itemValues?] at h
    split at h
    next value others _ hrest =>
      cases h
      exact congrArg Nat.succ (ih hrest)
    · cases h

/-- Where a document without repeated keys is no record of some fields, its value is none either. -/
theorem of?_ofValue_eq_none (hkeys : document.HasDistinctKeys) {value : Json}
    (hvalue : document.freeValue? = some value) (h : of? fields document = none) :
    of? fields (ofValue value) = none := by
  cases hkeys with
  | object hnodup _ =>
    obtain ⟨r, hr, -⟩ := exists_of?_of_nodup hnodup fields
    rw [h] at hr
    cases hr
  | array _ =>
    obtain ⟨values, hvalues, rfl⟩ := exists_of_freeValue?_array hvalue
    have hlong := slotsOfItems_eq_none.mp (Option.map_eq_none_iff.mp h)
    rw [← length_of_itemValues? hvalues] at hlong
    exact Option.map_eq_none_iff.mpr (slotsOfItems_eq_none.mpr hlong)
  | null | bool _ | number _ | string _ =>
    cases hvalue
    rfl
  | valueless => cases hvalue

/-- What is made of a record is read alike if it is made alike of what is said about the fields. -/
theorem readsValue_of {make : Record → Option α}
    (h : ∀ r tidied : Record, (∀ field ∈ fields, (r.slot field).SaidAlike (tidied.slot field)) →
      make tidied = make r) : ReadsValue fun document ↦ (of? fields document).bind make := by
  intro document value hkeys hvalue
  dsimp only
  cases hr : of? fields document with
  | none => rw [of?_ofValue_eq_none hkeys hvalue hr]
  | some r =>
    obtain ⟨tidied, htidied, hslot⟩ := exists_of?_ofValue hvalue hr
    rw [htidied]
    refine h r tidied fun field hfield ↦ (hslot field hfield).saidAlike fun given hgiven ↦ ?_
    exact hasDistinctKeys_of_slot hkeys hr hfield hgiven

theorem required_of_saidAlike (h : (r.slot field).SaidAlike (tidied.slot field))
    (hread : ReadsValue read) : tidied.required field read = r.required field read := by
  rw [required, required]
  generalize r.slot field = said at h
  generalize tidied.slot field = saidToo at h
  cases h with
  | given hkeys hvalue => exact hread _ _ hkeys hvalue
  | unnamed => rfl
  | beyond => rfl

theorem defaulted_of_saidAlike {default : α} (h : (r.slot field).SaidAlike (tidied.slot field))
    (hread : ReadsValue read) :
    tidied.defaulted field default read = r.defaulted field default read := by
  rw [defaulted, defaulted]
  generalize r.slot field = said at h
  generalize tidied.slot field = saidToo at h
  cases h with
  | given hkeys hvalue => exact hread _ _ hkeys hvalue
  | unnamed => rfl
  | beyond => rfl

end Record

end JsonDocument

end FieldTags
