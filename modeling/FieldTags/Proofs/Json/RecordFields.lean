import FieldTags.Proofs.Json.Canonical

/-!
# What the members of an object say about the fields of a record

A field of a record is read from the member of its name. In an object without repeated keys this is
the member that is found by its key.
-/

namespace FieldTags

namespace JsonDocument.Record

variable {members : List (String × JsonDocument)} {r : Record} {field : String}
variable {fields : List String}

/-- What an object says about a field is said by a member of this name. -/
theorem slot_cases (h : of? fields (.object members) = some r) (hfield : field ∈ fields) :
    r.slot field = .unnamed ∨
      ∃ document, (field, document) ∈ members ∧ r.slot field = .given document := by
  rcases slotOfMembers_cases (slotOfMembers_eq h hfield) with ⟨-, hslot⟩ | ⟨document, hone, hslot⟩
  · exact .inl hslot
  · exact .inr ⟨document, (List.mem_filter.mp (hone ▸ List.mem_cons_self)).1, hslot⟩

/-- What a member says about the field of its name, the object says. -/
theorem slot_of_mem (h : of? fields (.object members) = some r) (hfield : field ∈ fields)
    {document : JsonDocument} (hmem : (field, document) ∈ members) :
    r.slot field = .given document := by
  have hfilter : (field, document) ∈ members.filter (·.1 = field) :=
    List.mem_filter.mpr ⟨hmem, decide_eq_true rfl⟩
  rcases slotOfMembers_cases (slotOfMembers_eq h hfield) with ⟨hnone, -⟩ | ⟨other, hone, hgiven⟩
  · rw [hnone] at hfilter
    cases hfilter
  · rw [hone] at hfilter
    cases List.mem_singleton.mp hfilter
    exact hgiven

/-! ## Reading a field -/

section Fields

variable {α : Type} {document : JsonDocument} {read : JsonDocument → Option α}

theorem required_of_slot (h : r.slot field = .given document) :
    r.required field read = read document := by
  rw [required, h]

theorem defaulted_of_slot {default : α} (h : r.slot field = .given document) :
    r.defaulted field default read = read document := by
  rw [defaulted, h]

theorem defaulted_of_unnamed {default : α} (h : r.slot field = .unnamed) :
    r.defaulted field default read = some default := by
  rw [defaulted, h]

end Fields

/-! ## Objects without repeated keys -/

theorem filter_of_nodup (h : (members.map Prod.fst).Nodup) (field : String) :
    members.filter (·.1 = field) =
      ((members.lookup field).map fun document ↦ (field, document)).toList := by
  induction members with
  | nil => rfl
  | cons member rest ih =>
    obtain ⟨key, document⟩ := member
    obtain ⟨hkey, hrest⟩ := List.nodup_cons.mp h
    by_cases hfield : key = field
    · subst hfield
      have hothers : rest.filter (·.1 = key) = [] := by
        rw [List.filter_eq_nil_iff]
        intro other hother heq
        have hmem : other.1 ∈ rest.map Prod.fst := List.mem_map_of_mem hother
        have hsame : other.1 = key := of_decide_eq_true heq
        exact hkey (hsame ▸ hmem)
      rw [filter_cons_of_key rfl, hothers, List.lookup_cons_self]
      rfl
    · have hskip : (field == key) = false := beq_false_of_ne fun heq ↦ hfield heq.symm
      rw [filter_cons_of_key_ne hfield, List.lookup_cons, hskip]
      exact ih hrest

theorem slotOfMembers_of_nodup (h : (members.map Prod.fst).Nodup) (field : String) :
    slotOfMembers members field = some ((members.lookup field).elim .unnamed .given) := by
  rw [slotOfMembers, filter_of_nodup h]
  cases members.lookup field with
  | none => rfl
  | some document => rfl

/-- An object without repeated keys says about each field of a record what it has under this key. -/
theorem exists_of?_of_nodup (h : (members.map Prod.fst).Nodup) (fields : List String) :
    ∃ r, of? fields (.object members) = some r ∧
      ∀ field ∈ fields, r.slot field = (members.lookup field).elim .unnamed .given := by
  obtain ⟨r, hr⟩ :=
    exists_of?_object fun field _ ↦ Option.isSome_of_eq_some (slotOfMembers_of_nodup h field)
  refine ⟨r, hr, fun field hfield ↦ ?_⟩
  have hslot := slotOfMembers_eq hr hfield
  rw [slotOfMembers_of_nodup h] at hslot
  exact (Option.some.inj hslot).symm

theorem required_of_lookup {α : Type} {read : JsonDocument → Option α}
    (h : r.slot field = (members.lookup field).elim .unnamed .given) :
    r.required field read = (members.lookup field).bind read := by
  rw [required, h]
  cases members.lookup field with
  | none => rfl
  | some document => rfl

theorem defaulted_of_lookup {α : Type} {default : α} {read : JsonDocument → Option α}
    (h : r.slot field = (members.lookup field).elim .unnamed .given) :
    r.defaulted field default read = (members.lookup field).elim (some default) read := by
  rw [defaulted, h]
  cases members.lookup field with
  | none => rfl
  | some document => rfl

end JsonDocument.Record

end FieldTags
