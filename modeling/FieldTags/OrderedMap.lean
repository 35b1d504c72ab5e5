/-!
# Maps in insertion order

A finite map with text keys that remembers the order in which its keys first came. Inserting a key
that is present replaces its value and keeps its place; a new key goes to the end. Removing keys
keeps the order of the others.
-/

namespace FieldTags

namespace OrderedMap

variable {α : Type}

/-- The entries with `key` set to `value`: in place if the key is there, otherwise at the end. -/
def setEntry (key : String) (value : α) : List (String × α) → List (String × α)
  | [] => [(key, value)]
  | entry :: rest =>
    if entry.1 = key then (key, value) :: rest else entry :: setEntry key value rest

theorem keys_setEntry (key : String) (value : α) (entries : List (String × α)) :
    (setEntry key value entries).map Prod.fst =
      if key ∈ entries.map Prod.fst then entries.map Prod.fst
      else entries.map Prod.fst ++ [key] := by
  induction entries with
  | nil => simp [setEntry]
  | cons entry rest ih =>
    by_cases h : entry.1 = key
    · simp [setEntry, h]
    · have hne : ¬ key = entry.1 := fun e ↦ h e.symm
      simp only [setEntry, h, if_false, List.map_cons, ih, List.mem_cons, hne, false_or]
      split <;> simp

theorem nodup_setEntry (key : String) (value : α) {entries : List (String × α)}
    (h : (entries.map Prod.fst).Nodup) : ((setEntry key value entries).map Prod.fst).Nodup := by
  rw [keys_setEntry]
  split
  · exact h
  next hmem =>
    rw [List.nodup_append]
    refine ⟨h, by simp, ?_⟩
    intro a ha b hb hab
    simp only [List.mem_singleton] at hb
    exact hmem (by rw [← hb, ← hab]; exact ha)

end OrderedMap

/-- A finite map from texts that lists its entries in the order in which the keys first came. -/
structure OrderedMap (α : Type) where
  entries : List (String × α)
  nodup_keys : (entries.map Prod.fst).Nodup
  deriving DecidableEq

namespace OrderedMap

variable {α : Type}

def empty : OrderedMap α := ⟨[], by simp⟩

instance : Inhabited (OrderedMap α) := ⟨empty⟩

def keys (m : OrderedMap α) : List String :=
  m.entries.map Prod.fst

def values (m : OrderedMap α) : List α :=
  m.entries.map Prod.snd

def size (m : OrderedMap α) : Nat :=
  m.entries.length

def find? (m : OrderedMap α) (key : String) : Option α :=
  m.entries.lookup key

def contains (m : OrderedMap α) (key : String) : Bool :=
  m.keys.contains key

/-- The map with `key` set to `value`. A key that is present keeps its place. -/
def insert (m : OrderedMap α) (key : String) (value : α) : OrderedMap α :=
  ⟨setEntry key value m.entries, nodup_setEntry key value m.nodup_keys⟩

/-- The map with the entries inserted one after the other. -/
def insertAll (m : OrderedMap α) (entries : List (String × α)) : OrderedMap α :=
  entries.foldl (fun m entry ↦ m.insert entry.1 entry.2) m

/-- The map of a list of entries, in which a later value of a key replaces an earlier one. -/
def ofList (entries : List (String × α)) : OrderedMap α :=
  empty.insertAll entries

def filterKeys (m : OrderedMap α) (keep : String → Bool) : OrderedMap α :=
  ⟨m.entries.filter fun entry ↦ keep entry.1,
    m.nodup_keys.sublist (List.filter_sublist.map Prod.fst)⟩

def erase (m : OrderedMap α) (key : String) : OrderedMap α :=
  m.filterKeys (· != key)

theorem ext_entries {m n : OrderedMap α} (h : m.entries = n.entries) : m = n := by
  cases m
  cases n
  simp only at h
  subst h
  rfl

@[simp]
theorem entries_empty : (empty : OrderedMap α).entries = [] := rfl

@[simp]
theorem entries_insert (m : OrderedMap α) (key : String) (value : α) :
    (m.insert key value).entries = setEntry key value m.entries := rfl

/-- Inserting a key that is present keeps all keys in their places; a new key goes to the end. -/
theorem keys_insert (m : OrderedMap α) (key : String) (value : α) :
    (m.insert key value).keys = if key ∈ m.keys then m.keys else m.keys ++ [key] :=
  keys_setEntry key value m.entries

theorem lookup_setEntry (key other : String) (value : α) (entries : List (String × α)) :
    (setEntry key value entries).lookup other =
      if other = key then some value else entries.lookup other := by
  induction entries with
  | nil =>
    by_cases h : other = key
    · simp [setEntry, h]
    · have hb : (other == key) = false := by simpa using h
      simp [setEntry, List.lookup_cons, h, hb]
  | cons entry rest ih =>
    obtain ⟨k, v⟩ := entry
    by_cases hk : k = key
    · subst hk
      by_cases h : other = k
      · simp [setEntry, h]
      · have hb : (other == k) = false := by simpa using h
        simp [setEntry, List.lookup_cons, h, hb]
    · by_cases ho : other = k
      · subst ho
        simp [setEntry, hk]
      · have hb : (other == k) = false := by simpa using ho
        simp only [setEntry, hk, if_false, List.lookup_cons, hb, ih]

/-- After an insertion the key has the new value and every other key the value that it had. -/
theorem find?_insert (m : OrderedMap α) (key other : String) (value : α) :
    (m.insert key value).find? other = if other = key then some value else m.find? other :=
  lookup_setEntry key other value m.entries

@[simp]
theorem find?_empty (key : String) : (empty : OrderedMap α).find? key = none := rfl

/-- The value of a key stands in the entry of this key. -/
theorem find?_eq_some_iff {m : OrderedMap α} {key : String} {value : α} :
    m.find? key = some value ↔ (key, value) ∈ m.entries := by
  rw [find?, List.lookup_eq_some_iff]
  constructor
  · rintro ⟨before, after, hentries, -⟩
    rw [hentries]
    exact List.mem_append_right before List.mem_cons_self
  · intro hmem
    obtain ⟨before, after, hentries⟩ := List.append_of_mem hmem
    have hnodup := m.nodup_keys
    rw [hentries, List.map_append, List.map_cons, List.nodup_append] at hnodup
    refine ⟨before, after, hentries, fun entry hentry ↦ ?_⟩
    have hne : entry.1 ≠ key :=
      hnodup.2.2 entry.1 (List.mem_map_of_mem hentry) key List.mem_cons_self
    simpa using hne.symm

theorem lookup_filter_key (keep : String → Bool) (key : String) (entries : List (String × α)) :
    (entries.filter fun entry ↦ keep entry.1).lookup key =
      if keep key then entries.lookup key else none := by
  induction entries with
  | nil => simp
  | cons entry rest ih =>
    obtain ⟨k, v⟩ := entry
    by_cases hk : key = k
    · subst hk
      cases hkeep : keep key
      · simpa [hkeep] using ih
      · simp [hkeep]
    · have hb : (key == k) = false := by simpa using hk
      cases hkeep : keep k
      · simpa [List.lookup_cons, hkeep, hb] using ih
      · simpa [List.lookup_cons, hkeep, hb] using ih

/-- Where keys are kept they have the values that they had, and other keys have none. -/
theorem find?_filterKeys (m : OrderedMap α) (keep : String → Bool) (key : String) :
    (m.filterKeys keep).find? key = if keep key then m.find? key else none :=
  lookup_filter_key keep key m.entries

/-- After a removal the key has no value and every other key the value that it had. -/
theorem find?_erase (m : OrderedMap α) (key other : String) :
    (m.erase key).find? other = if other = key then none else m.find? other := by
  rw [erase, find?_filterKeys]
  by_cases h : other = key <;> simp [h]

end OrderedMap

end FieldTags
