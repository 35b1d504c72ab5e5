import FieldTags.OrderedMap
import Mathlib.Algebra.GroupWithZero.Nat
import Mathlib.Data.List.Induction

/-!
# Maps of listed entries

A list of entries without repeated keys is the list of entries of its map. If a key is repeated, the
last of its values counts. The map of two lists, one behind the other, is the map of the first with
the entries of the map of the second inserted.
-/

namespace FieldTags.OrderedMap

variable {α : Type}

theorem setEntry_of_not_mem {key : String} (value : α) {entries : List (String × α)}
    (h : key ∉ entries.map Prod.fst) : setEntry key value entries = entries ++ [(key, value)] := by
  induction entries with
  | nil => rfl
  | cons entry rest ih =>
    rw [List.map_cons, List.mem_cons, not_or] at h
    have hne : entry.1 ≠ key := fun heq ↦ h.1 heq.symm
    rw [setEntry, if_neg hne, ih h.2, List.cons_append]

/-- New keys go to the end in their order. -/
theorem entries_insertAll (m : OrderedMap α) {entries : List (String × α)}
    (h : ((m.entries ++ entries).map Prod.fst).Nodup) :
    (m.insertAll entries).entries = m.entries ++ entries := by
  induction entries generalizing m with
  | nil => exact (List.append_nil _).symm
  | cons entry rest ih =>
    have hnew : entry.1 ∉ m.entries.map Prod.fst := by
      rw [List.map_append, List.map_cons] at h
      intro hmem
      exact (List.nodup_append.mp h).2.2 _ hmem _ List.mem_cons_self rfl
    have hinsert : (m.insert entry.1 entry.2).entries = m.entries ++ [entry] :=
      setEntry_of_not_mem entry.2 hnew
    have hrest : (((m.insert entry.1 entry.2).entries ++ rest).map Prod.fst).Nodup := by
      rwa [hinsert, List.append_assoc, List.singleton_append]
    rw [insertAll, List.foldl_cons]
    have htail := ih (m.insert entry.1 entry.2) hrest
    rw [insertAll] at htail
    rw [htail, hinsert, List.append_assoc, List.singleton_append]

/-- A list without repeated keys is the list of entries of its map. -/
theorem entries_ofList {entries : List (String × α)} (h : (entries.map Prod.fst).Nodup) :
    (ofList entries).entries = entries :=
  entries_insertAll empty h

theorem mem_setEntry {key : String} {value : α} {entry : String × α} {entries : List (String × α)}
    (h : entry ∈ setEntry key value entries) : entry = (key, value) ∨ entry ∈ entries := by
  induction entries with
  | nil => exact .inl (List.mem_singleton.mp h)
  | cons first rest ih =>
    rw [setEntry] at h
    split at h
    · exact (List.mem_cons.mp h).imp_right (List.mem_cons_of_mem first)
    · rcases List.mem_cons.mp h with rfl | hrest
      · exact .inr List.mem_cons_self
      · exact (ih hrest).imp_right (List.mem_cons_of_mem first)

theorem ofList_concat (entries : List (String × α)) (entry : String × α) :
    ofList (entries ++ [entry]) = (ofList entries).insert entry.1 entry.2 := by
  rw [ofList, insertAll, List.foldl_append]
  rfl

/-- The entries of a map are among those that it is made of. -/
theorem mem_of_mem_ofList {entry : String × α} {entries : List (String × α)}
    (h : entry ∈ (ofList entries).entries) : entry ∈ entries := by
  induction entries using List.reverseRecOn with
  | nil => exact h
  | append_singleton entries last ih =>
    rw [ofList_concat, entries_insert] at h
    rcases mem_setEntry h with rfl | hrest
    · exact List.mem_append_right _ List.mem_cons_self
    · exact List.mem_append_left _ (ih hrest)

/-- Of the values that a key is given, the last one counts. -/
theorem find?_ofList (entries : List (String × α)) (key : String) :
    (ofList entries).find? key =
      (entries.filter fun entry ↦ entry.1 = key).getLast?.map Prod.snd := by
  induction entries using List.reverseRecOn with
  | nil => rfl
  | append_singleton entries entry ih =>
    rw [ofList_concat, find?_insert, ih, List.filter_append]
    by_cases h : entry.1 = key
    · have hsingle : [entry].filter (fun entry ↦ entry.1 = key) = [entry] :=
        List.filter_cons_of_pos (decide_eq_true h)
      rw [if_pos h.symm, hsingle, List.getLast?_concat, Option.map_some]
    · have hsingle : [entry].filter (fun entry ↦ entry.1 = key) = [] :=
        List.filter_cons_of_neg (decide_eq_false h ▸ Bool.false_ne_true)
      rw [if_neg fun heq ↦ h heq.symm, hsingle, List.append_nil]

theorem sum_map_setEntry_le (weight : String × α → Nat) (key : String) (value : α)
    (entries : List (String × α)) :
    ((setEntry key value entries).map weight).sum ≤
      (entries.map weight).sum + weight (key, value) := by
  induction entries with
  | nil => simp [setEntry]
  | cons entry rest ih =>
    rw [setEntry]
    split
    · rw [List.map_cons, List.map_cons, List.sum_cons, List.sum_cons]
      omega
    · rw [List.map_cons, List.map_cons, List.sum_cons, List.sum_cons]
      omega

/-- The entries of a map weigh no more than those that it is made of. -/
theorem sum_map_ofList_le (weight : String × α → Nat) (entries : List (String × α)) :
    ((ofList entries).entries.map weight).sum ≤ (entries.map weight).sum := by
  induction entries using List.reverseRecOn with
  | nil => exact Nat.le_refl _
  | append_singleton entries entry ih =>
    rw [ofList_concat, entries_insert, List.map_append, List.sum_append_nat]
    exact Nat.le_trans (sum_map_setEntry_le weight entry.1 entry.2 _) (Nat.add_le_add_right ih _)

theorem isSome_find? (m : OrderedMap α) (key : String) : (m.find? key).isSome = m.contains key := by
  rw [Bool.eq_iff_iff, Option.isSome_iff_exists, contains, List.contains_iff_mem, keys,
    List.mem_map]
  simp only [find?_eq_some_iff, Prod.exists, exists_and_right, exists_eq_right]

theorem find?_singleton (key other : String) (value : α) :
    (ofList [(key, value)]).find? other = if other = key then some value else none :=
  find?_insert empty key other value

/-! ## Maps inserted into maps -/

theorem setEntry_setEntry (key : String) (value last : α) (entries : List (String × α)) :
    setEntry key last (setEntry key value entries) = setEntry key last entries := by
  induction entries with
  | nil => exact if_pos rfl
  | cons entry rest ih =>
    by_cases h : entry.1 = key
    · rw [setEntry, if_pos h, setEntry, if_pos rfl, setEntry, if_pos h]
    · rw [setEntry, if_neg h, setEntry, if_neg h, ih, setEntry, if_neg h]

/-- A key that is there is set without a trace of what other keys are set to. -/
theorem setEntry_comm {key other : String} (hne : other ≠ key) (value last : α)
    {entries : List (String × α)} (h : key ∈ entries.map Prod.fst) :
    setEntry key last (setEntry other value entries) =
      setEntry other value (setEntry key last entries) := by
  induction entries with
  | nil => exact absurd h List.not_mem_nil
  | cons entry rest ih =>
    by_cases hkey : entry.1 = key
    · have hother : entry.1 ≠ other := fun heq ↦ hne (heq.symm.trans hkey)
      rw [setEntry, if_neg hother, setEntry, if_pos hkey, setEntry, if_pos hkey, setEntry,
        if_neg hne.symm]
    · have hrest : key ∈ rest.map Prod.fst := by
        rw [List.map_cons] at h
        exact List.mem_of_ne_of_mem (Ne.symm hkey) h
      by_cases hother : entry.1 = other
      · rw [setEntry, if_pos hother, setEntry, if_neg hne, setEntry, if_neg hkey, setEntry,
          if_pos hother]
      · rw [setEntry, if_neg hother, setEntry, if_neg hkey, ih hrest, setEntry, if_neg hkey,
          setEntry, if_neg hother]

theorem mem_keys_insert {m : OrderedMap α} {key other : String} {value : α} :
    key ∈ (m.insert other value).keys ↔ key = other ∨ key ∈ m.keys := by
  rw [keys_insert]
  split
  next hmem =>
    refine ⟨.inr, ?_⟩
    rintro (rfl | h)
    · exact hmem
    · exact h
  next => rw [List.mem_append, List.mem_singleton, or_comm]

theorem insertAll_append (m : OrderedMap α) (entries more : List (String × α)) :
    m.insertAll (entries ++ more) = (m.insertAll entries).insertAll more :=
  List.foldl_append

/-- A key that is there can be set before other keys are, or after them. -/
theorem insert_insertAll {m : OrderedMap α} {key : String} (value : α)
    {entries : List (String × α)} (hmem : key ∈ m.keys) (h : key ∉ entries.map Prod.fst) :
    (m.insertAll entries).insert key value = (m.insert key value).insertAll entries := by
  induction entries generalizing m with
  | nil => rfl
  | cons entry rest ih =>
    rw [List.map_cons, List.mem_cons, not_or] at h
    have hkeys : key ∈ (m.insert entry.1 entry.2).keys := mem_keys_insert.mpr (.inr hmem)
    have hcomm : (m.insert entry.1 entry.2).insert key value =
        (m.insert key value).insert entry.1 entry.2 :=
      ext_entries (setEntry_comm (Ne.symm h.1) entry.2 value hmem)
    calc ((m.insert entry.1 entry.2).insertAll rest).insert key value
        = ((m.insert entry.1 entry.2).insert key value).insertAll rest := ih hkeys h.2
      _ = ((m.insert key value).insert entry.1 entry.2).insertAll rest := by rw [hcomm]

/-- Inserting the entries of a list that has been set in one place is inserting them and then this
place. -/
theorem insertAll_setEntry (m : OrderedMap α) (key : String) (value : α)
    {entries : List (String × α)} (h : (entries.map Prod.fst).Nodup) :
    m.insertAll (setEntry key value entries) = (m.insertAll entries).insert key value := by
  induction entries generalizing m with
  | nil => rfl
  | cons entry rest ih =>
    rw [List.map_cons, List.nodup_cons] at h
    by_cases hkey : entry.1 = key
    · subst hkey
      have hmem : entry.1 ∈ (m.insert entry.1 entry.2).keys := mem_keys_insert.mpr (.inl rfl)
      have hlast : (m.insert entry.1 entry.2).insert entry.1 value = m.insert entry.1 value :=
        ext_entries (setEntry_setEntry entry.1 entry.2 value m.entries)
      calc m.insertAll (setEntry entry.1 value (entry :: rest))
          = (m.insert entry.1 value).insertAll rest := by rw [setEntry, if_pos rfl]; rfl
        _ = ((m.insert entry.1 entry.2).insert entry.1 value).insertAll rest := by rw [hlast]
        _ = ((m.insert entry.1 entry.2).insertAll rest).insert entry.1 value :=
          (insert_insertAll value hmem h.1).symm
    · rw [setEntry, if_neg hkey]
      exact ih (m.insert entry.1 entry.2) h.2

/-- Inserting the entries of a map gives what inserting the entries that it is made of gives. -/
theorem insertAll_entries_ofList (m : OrderedMap α) (entries : List (String × α)) :
    m.insertAll (ofList entries).entries = m.insertAll entries := by
  induction entries using List.reverseRecOn with
  | nil => rfl
  | append_singleton entries entry ih =>
    rw [ofList_concat, entries_insert, insertAll_setEntry _ _ _ (ofList entries).nodup_keys, ih,
      insertAll_append]
    rfl

theorem ofList_append (entries more : List (String × α)) :
    ofList (entries ++ more) = (ofList entries).insertAll (ofList more).entries := by
  rw [insertAll_entries_ofList, ofList, insertAll_append]
  rfl

end FieldTags.OrderedMap
