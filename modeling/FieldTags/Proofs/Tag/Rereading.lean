import FieldTags.Proofs.Config.Numbers
import FieldTags.Proofs.Tag.RoundTrip
import FieldTags.Proofs.Text.Lowercase
import Mathlib.Algebra.Order.BigOperators.Group.List

/-!
# Writing anew what was read

The values that are read from a tag can be written and read again without loss, as long as no key
has a semicolon: a key is written as it is, while the semicolons of a value are doubled. A key with
a semicolon is always lost. Reading takes two semicolons of the text for each one in an item and one
for the end of an item, and so many are not written for such a key.
-/

namespace FieldTags

/-! ## What is read -/

namespace TagValue

/-- What a trimmed text reads as can be written and read again. -/
theorem isReadable_read {s : String} (h : Text.trim s = s) : (read s).IsReadable := by
  unfold read
  split_ifs with hempty htrue hfalse
  · subst hempty
    exact ⟨rfl, rfl⟩
  · exact trivial
  · exact trivial
  · split
    next x hx => exact Binary64.isFinite_of_ofText? hx
    next hnumber =>
      refine ⟨h, ?_⟩
      rw [read, if_neg hempty, if_neg htrue, if_neg hfalse, hnumber]

/-- The text of a value that is read has no more semicolons than what it is read from. -/
theorem count_toText_read_le (s : String) :
    (read s).toText.toList.count ';' ≤ s.toList.count ';' := by
  unfold read
  split_ifs with hempty
  · subst hempty
    exact Nat.le_refl _
  · exact Nat.zero_le _
  · exact Nat.zero_le _
  · split
    next x hx =>
      have hno : ';' ∉ (NumberLayout.plain.text x).toList := by
        intro hmem
        have hbounds := Binary64.toNat_bounds_of_mem (Binary64.isFinite_of_ofText? hx) hmem
        exact absurd hbounds.2 (by decide)
      rw [toText, List.count_eq_zero.mpr hno]
      exact Nat.zero_le _
    · exact Nat.le_refl _

end TagValue

namespace Tag

/-- A key that is read has no more semicolons than what it is read from. -/
theorem count_readKey_le (cs : List Char) : (readKey cs).toList.count ';' ≤ cs.count ';' := by
  have hself : Text.lowercaseChar ';' = ';' := by decide +kernel
  rw [readKey, Text.lowercase, String.toList_ofList, String.toList_ofList,
    Text.count_lowercaseAfter (by decide) hself]
  exact (Text.trimChars_sublist cs).count_le ';'

/-- Only blanks are read as the empty key. -/
theorem readKey_ne_empty {cs : List Char} (h : ¬ cs.all Text.isBlank = true) : readKey cs ≠ "" := by
  obtain ⟨c, hmem, hc⟩ := List.all_eq_false.mp (Bool.eq_false_iff.mpr h)
  have htrim := Text.mem_trimChars (Bool.eq_false_iff.mpr hc) hmem
  intro hempty
  have hlist := congrArg String.toList hempty
  rw [readKey, Text.lowercase, String.toList_ofList, String.toList_ofList] at hlist
  exact Text.lowercaseAfter_ne_nil (List.ne_nil_of_mem htrim) hlist

/-- What is read as a key without a semicolon is written as a key. -/
theorem isKey_readKey {cs : List Char} (hne : readKey cs ≠ "") (hcolon : ':' ∉ cs)
    (hsemicolon : ';' ∉ (readKey cs).toList) : IsKey (readKey cs) where
  ne_empty := hne
  trim_eq := by
    rw [readKey, Text.lowercase, String.toList_ofList, Text.trim, String.toList_ofList,
      Text.trimChars_lowercaseAfter (Text.trimChars_trimChars cs)]
  lowercase_eq := Text.lowercase_lowercase _
  no_colon := by
    have hself : Text.lowercaseChar ':' = ':' := by decide +kernel
    have hcount : (Text.trimChars cs).count ':' ≤ cs.count ':' :=
      (Text.trimChars_sublist cs).count_le ':'
    rw [List.count_eq_zero.mpr hcolon] at hcount
    rw [readKey, Text.lowercase, String.toList_ofList, String.toList_ofList, ← List.count_eq_zero,
      Text.count_lowercaseAfter (by decide) hself]
    exact Nat.le_zero.mp hcount
  no_semicolon := hsemicolon

/-! ## Counting semicolons -/

/-- The semicolons that a text needs for an item: two for each one in it and one that ends it. -/
def itemWeight (item : List Char) : Nat :=
  2 * item.count ';' + 1

/-- The semicolons that a text needs for an entry. -/
def entryWeight (entry : String × TagValue) : Nat :=
  2 * entry.1.toList.count ';' + 2 * entry.2.toText.toList.count ';' + 1

/-- Splitting takes all semicolons of the text for the items, of which the last needs no end. -/
theorem sum_splitItemsAfter (before cs : List Char) :
    ((splitItemsAfter before cs).map itemWeight).sum = cs.count ';' + itemWeight before := by
  fun_induction splitItemsAfter before cs with
  | case1 before =>
    rw [List.map_singleton, List.sum_singleton, itemWeight, itemWeight, List.count_reverse,
      List.count_nil, Nat.zero_add]
  | case2 before rest ih =>
    rw [ih, itemWeight, itemWeight, List.count_cons_self, List.count_cons_self,
      List.count_cons_self]
    omega
  | case3 before rest hsingle ih =>
    rw [List.map_cons, List.sum_cons, ih, itemWeight, itemWeight, itemWeight, List.count_reverse,
      List.count_cons_self, List.count_nil]
    omega
  | case4 before c rest hdouble hc ih =>
    rw [ih, itemWeight, itemWeight, List.count_cons_of_ne hc, List.count_cons_of_ne hc]

/-- What an item that is read as an entry says about it. -/
theorem entry_of_read {item : List Char} {key : String} {value : TagValue}
    (h : Item.read item = .entry key value) :
    value.IsReadable ∧ (';' ∉ key.toList → IsKey key) ∧
      entryWeight (key, value) ≤ itemWeight item := by
  unfold Item.read at h
  split_ifs at h with hblank
  split at h
  next hnone =>
    cases h
    have hcolon := Text.not_mem_of_splitFirst? hnone
    refine ⟨trivial, isKey_readKey (readKey_ne_empty hblank) hcolon, ?_⟩
    have hkey := count_readKey_le item
    have htrue : (TagValue.bool true).toText.toList.count ';' = 0 := by decide
    rw [entryWeight, itemWeight]
    dsimp only
    omega
  next before after hsome =>
    obtain ⟨rfl, hcolon⟩ := Text.splitFirst?_eq_some_iff.mp hsome
    dsimp only at h
    split_ifs at h with hempty
    cases h
    refine ⟨TagValue.isReadable_read ?_, isKey_readKey hempty hcolon, ?_⟩
    · rw [Text.trim, String.toList_ofList, Text.trimChars_trimChars]
    · have hkey := count_readKey_le before
      have hvalue := TagValue.count_toText_read_le (String.ofList (Text.trimChars after))
      have htrim := (Text.trimChars_sublist after).count_le ';'
      rw [String.toList_ofList] at hvalue
      rw [entryWeight, itemWeight, List.count_append, List.count_cons]
      dsimp only
      omega

theorem sum_entries_le (items : List (List Char)) :
    ((items.filterMap fun item ↦ (Item.read item).pair?).map entryWeight).sum ≤
      (items.map itemWeight).sum := by
  induction items with
  | nil => exact Nat.le_refl _
  | cons item rest ih =>
    rw [List.map_cons, List.sum_cons, List.filterMap_cons]
    cases hread : Item.read item with
    | blank => exact Nat.le_add_left_of_le ih
    | keyless => exact Nat.le_add_left_of_le ih
    | entry key value =>
      rw [Item.pair?, List.map_cons, List.sum_cons]
      exact Nat.add_le_add (entry_of_read hread).2.2 ih

/-- The entries of a tag need no more semicolons than it has, save one behind the last of them. -/
theorem sum_entryWeight_read_le (tag : String) :
    ((read tag).entries.map entryWeight).sum ≤ tag.toList.count ';' + 1 := by
  have hsplit := sum_splitItemsAfter [] tag.toList
  calc ((read tag).entries.map entryWeight).sum
      ≤ ((entries tag).map entryWeight).sum := OrderedMap.sum_map_ofList_le entryWeight _
    _ ≤ ((splitItems tag.toList).map itemWeight).sum := sum_entries_le _
    _ = tag.toList.count ';' + 1 := hsplit

theorem count_escape (s : List Char) : (escape s).count ';' = 2 * s.count ';' := by
  induction s with
  | nil => rfl
  | cons c rest ih =>
    by_cases hc : c = ';'
    · subst hc
      have hdouble : escape (';' :: rest) = ';' :: ';' :: escape rest := rfl
      rw [hdouble, List.count_cons_self, List.count_cons_self, List.count_cons_self, ih]
      omega
    · rw [escape_cons_of_ne hc, List.count_cons_of_ne hc, List.count_cons_of_ne hc, ih]

/-- In an item that is written only the semicolons of the value are doubled. -/
theorem count_writeItem (key : String) (value : TagValue) :
    (writeItem key value).toList.count ';' =
      key.toList.count ';' + 2 * value.toText.toList.count ';' := by
  by_cases hvalue : value = .bool true
  · subst hvalue
    have htrue : (TagValue.bool true).toText.toList.count ';' = 0 := by decide
    rw [htrue]
    rfl
  · have hcolon : ":".toList.count ';' = 0 := by decide
    rw [writeItem_of_ne hvalue, textItem, String.toList_append, String.toList_append,
      List.count_append, List.count_append, hcolon, String.toList_ofList, count_escape, Nat.add_zero]

theorem count_joinWith {items : List (List Char)} (h : items ≠ []) :
    (Text.joinWith [';'] items).count ';' + 1 = (items.map fun item ↦ item.count ';' + 1).sum := by
  induction items with
  | nil => exact absurd rfl h
  | cons item rest ih =>
    cases rest with
    | nil => rfl
    | cons next more =>
      rw [Text.joinWith_cons_cons, List.map_cons, List.sum_cons, ← ih (List.cons_ne_nil _ _),
        List.count_append, List.count_cons_self]
      omega

/-- A written tag has fewer semicolons than its entries need by one for each in a key. -/
theorem count_write {pairs : List (String × TagValue)} (h : pairs ≠ []) :
    (write pairs).toList.count ';' + 1 + (pairs.map fun pair ↦ pair.1.toList.count ';').sum =
      (pairs.map entryWeight).sum := by
  have hitems : pairs.map (fun pair ↦ (writeItem pair.1 pair.2).toList) ≠ [] := by
    rwa [Ne, List.map_eq_nil_iff]
  rw [write, String.toList_ofList, count_joinWith hitems, List.map_map, ← List.sum_map_add]
  refine congrArg List.sum (List.map_congr_left fun pair _ ↦ ?_)
  rw [Function.comp_apply, count_writeItem, entryWeight]
  omega

/-! ## Writing and reading -/

/-- If a written tag is read back, no key has a semicolon. -/
theorem not_mem_of_read_write {pairs : List (String × TagValue)}
    (h : (read (write pairs)).entries = pairs) {pair : String × TagValue} (hpair : pair ∈ pairs) :
    ';' ∉ pair.1.toList := by
  have hread := sum_entryWeight_read_le (write pairs)
  have hwritten := count_write (List.ne_nil_of_mem hpair)
  rw [h] at hread
  have hkey : pair.1.toList.count ';' ≤ (pairs.map fun pair ↦ pair.1.toList.count ';').sum :=
    List.le_sum_of_mem (List.mem_map_of_mem hpair)
  exact List.count_eq_zero.mp (by omega)

/-- Every entry of a tag comes from an item. -/
theorem exists_item_of_mem {tag : String} {pair : String × TagValue}
    (h : pair ∈ (read tag).entries) : ∃ item, Item.read item = .entry pair.1 pair.2 := by
  obtain ⟨item, -, hitem⟩ := List.mem_filterMap.mp (OrderedMap.mem_of_mem_ofList h)
  refine ⟨item, ?_⟩
  cases hread : Item.read item with
  | blank => rw [hread] at hitem; cases hitem
  | keyless => rw [hread] at hitem; cases hitem
  | entry key value => rw [hread] at hitem; cases hitem; rfl

/-- Writing what a tag is read as gives a tag that is read in the same way exactly if no key has a
semicolon. -/
theorem read_write_read_iff (tag : String) :
    read (write (read tag).entries) = read tag ↔
      ∀ key ∈ (read tag).keys, ';' ∉ key.toList := by
  constructor
  · intro hread key hkey
    obtain ⟨pair, hpair, rfl⟩ := List.mem_map.mp hkey
    exact not_mem_of_read_write (congrArg OrderedMap.entries hread) hpair
  · intro hkeys
    have hentries : ∀ pair ∈ (read tag).entries, IsKey pair.1 ∧ pair.2.IsReadable := by
      intro pair hpair
      obtain ⟨item, hitem⟩ := exists_item_of_mem hpair
      obtain ⟨hvalue, hkey, -⟩ := entry_of_read hitem
      exact ⟨hkey (hkeys pair.1 (List.mem_map_of_mem hpair)), hvalue⟩
    have hwrite : entries (write (read tag).entries) = (read tag).entries :=
      entries_write (fun pair hpair ↦ (hentries pair hpair).1)
        fun pair hpair ↦ (hentries pair hpair).2
    exact OrderedMap.ext_entries (by
      rw [read, hwrite, OrderedMap.entries_ofList (read tag).nodup_keys])

/-- A semicolon in a key is not doubled, so it is read as the end of an item. -/
theorem not_forall_read_write_read :
    ¬ ∀ tag, read (write (read tag).entries) = read tag := by
  intro h
  have hkey : read (write (read "a;;b:1").entries) ≠ read "a;;b:1" := by decide +kernel
  exact hkey (h "a;;b:1")

end Tag

end FieldTags
