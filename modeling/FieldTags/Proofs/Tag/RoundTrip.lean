import FieldTags.Proofs.Number.PlainText
import FieldTags.Proofs.OrderedMap
import FieldTags.Proofs.Tag.Splitting
import Mathlib.Data.List.Basic

/-!
# Reading written tags back

A tag that is written from keys and values is read back as these keys and values, in their order.
The keys have to be in the form that reading gives them, and the values have to be values of their
own text. Truth values and finite numbers always are; a text is unless it is read as one of those.
-/

namespace FieldTags

/-! ## Values -/

namespace TagValue

/-- The value is finite if it is a number, and if it is a text, it is trimmed and read as itself. -/
def IsReadable : TagValue → Prop
  | .bool _ => True
  | .number x => x.isFinite = true
  | .text s => Text.trim s = s ∧ read s = .text s

instance (value : TagValue) : Decidable value.IsReadable :=
  match value with
  | .bool _ => .isTrue trivial
  | .number x => inferInstanceAs (Decidable (x.isFinite = true))
  | .text s => inferInstanceAs (Decidable (Text.trim s = s ∧ read s = .text s))

/-- The text of a readable value is trimmed. -/
theorem trimChars_toText {value : TagValue} (h : value.IsReadable) :
    Text.trimChars value.toText.toList = value.toText.toList := by
  cases value with
  | bool b => cases b <;> decide
  | number x => exact Binary64.trimChars_plain_text h
  | text s => exact Text.trimChars_toList h.1

/-- The text of a finite number is no word, in whatever case: letters stand behind the digits. -/
theorem toLower_plain_text_ne {x : Binary64} (h : x.isFinite = true) (word : String)
    (hword : (word.toList.all fun c ↦ 57 < c.toNat) = true) :
    (NumberLayout.plain.text x).toLower ≠ word := by
  intro heq
  subst heq
  have hne : (NumberLayout.plain.text x).toList ≠ [] :=
    fun hnil ↦ Binary64.plain_text_ne_empty h (String.toList_eq_nil_iff.mp hnil)
  obtain ⟨c, hc⟩ := List.exists_mem_of_ne_nil _ hne
  have hmap : (NumberLayout.plain.text x).toLower = (NumberLayout.plain.text x).map Char.toLower :=
    rfl
  have hbounds := Binary64.toNat_bounds_of_mem h hc
  have hlower : c.toLower = c := by
    refine dif_neg fun hupper ↦ ?_
    have hleast : 65 ≤ c.toNat := UInt32.le_iff_toNat_le.mp hupper.1
    omega
  have hmem : c.toLower ∈ (NumberLayout.plain.text x).toLower.toList := by
    rw [hmap, String.toList_map]
    exact List.mem_map_of_mem hc
  have hletter : 57 < c.toLower.toNat := of_decide_eq_true (List.all_eq_true.mp hword _ hmem)
  rw [hlower] at hletter
  omega

/-- The text of a finite number is read as the number. -/
theorem read_plain_text {x : Binary64} (h : x.isFinite = true) :
    read (NumberLayout.plain.text x) = .number x := by
  have htrue := toLower_plain_text_ne h "true" (by decide)
  have hfalse := toLower_plain_text_ne h "false" (by decide)
  rw [read, if_neg (Binary64.plain_text_ne_empty h), if_neg htrue, if_neg hfalse,
    Binary64.ofText?_plain_text h]

/-- A readable value is the value of its text. -/
theorem read_toText {value : TagValue} (h : value.IsReadable) : read value.toText = value := by
  cases value with
  | bool b => cases b <;> decide +kernel
  | number x => exact read_plain_text h
  | text s => exact h.2

end TagValue

/-! ## Items -/

namespace Tag

/-- A key in the form that reading gives it, without the characters that end it. -/
structure IsKey (key : String) : Prop where
  ne_empty : key ≠ ""
  trim_eq : Text.trim key = key
  lowercase_eq : Text.lowercase key = key
  no_colon : ':' ∉ key.toList
  no_semicolon : ';' ∉ key.toList

instance (key : String) : Decidable (IsKey key) :=
  decidable_of_iff (key ≠ "" ∧ Text.trim key = key ∧ Text.lowercase key = key ∧
      ':' ∉ key.toList ∧ ';' ∉ key.toList)
    ⟨fun ⟨ne, trim, lowercase, colon, semicolon⟩ ↦ ⟨ne, trim, lowercase, colon, semicolon⟩,
      fun h ↦ ⟨h.ne_empty, h.trim_eq, h.lowercase_eq, h.no_colon, h.no_semicolon⟩⟩

variable {key : String} {value : TagValue}

/-- The text of an item before its semicolons are doubled. -/
def itemChars (key : String) (value : TagValue) : List Char :=
  match value with
  | .bool true => key.toList
  | other => key.toList ++ ':' :: other.toText.toList

/-- The item of a key and a text, with every semicolon of the text doubled. -/
def textItem (key s : String) : String :=
  key ++ ":" ++ String.ofList (escape s.toList)

theorem itemChars_of_ne (h : value ≠ .bool true) :
    itemChars key value = key.toList ++ ':' :: value.toText.toList := by
  unfold itemChars
  split
  · exact absurd rfl h
  · rfl

theorem writeItem_of_ne (h : value ≠ .bool true) :
    writeItem key value = textItem key value.toText := by
  unfold writeItem
  split
  · exact absurd rfl h
  · rfl

theorem IsKey.toList_ne_nil (h : IsKey key) : key.toList ≠ [] :=
  fun hnil ↦ h.ne_empty (String.toList_eq_nil_iff.mp hnil)

theorem IsKey.all_isBlank (h : IsKey key) : key.toList.all Text.isBlank = false :=
  Text.all_isBlank_of_trimChars (Text.trimChars_toList h.trim_eq) h.toList_ne_nil

theorem IsKey.readKey_toList (h : IsKey key) : readKey key.toList = key := by
  rw [readKey, Text.trimChars_toList h.trim_eq, String.ofList_toList, h.lowercase_eq]

/-- The item of a key and a text is the escaped text of both. -/
theorem IsKey.toList_textItem (h : IsKey key) (s : String) :
    (textItem key s).toList = escape (key.toList ++ ':' :: s.toList) := by
  have hcolon : ":".toList = [':'] := rfl
  rw [textItem, escape_append, escape_of_not_mem h.no_semicolon, escape_cons_of_ne (by decide),
    String.toList_append, String.toList_append, hcolon, String.toList_ofList, List.append_assoc,
    List.singleton_append]

/-- A written item is the escaped text of the item. -/
theorem IsKey.toList_writeItem (h : IsKey key) (value : TagValue) :
    (writeItem key value).toList = escape (itemChars key value) := by
  by_cases hvalue : value = .bool true
  · subst hvalue
    exact (escape_of_not_mem h.no_semicolon).symm
  · rw [writeItem_of_ne hvalue, itemChars_of_ne hvalue]
    exact h.toList_textItem value.toText

/-- An item begins with its key and so with no semicolon. -/
theorem IsKey.starts_itemChars (h : IsKey key) (value : TagValue) :
    Starts (itemChars key value) := by
  obtain ⟨c, rest, hkey⟩ := List.exists_cons_of_ne_nil h.toList_ne_nil
  have hc : c ≠ ';' := by
    rintro rfl
    exact h.no_semicolon (hkey ▸ List.mem_cons_self)
  by_cases hvalue : value = .bool true
  · subst hvalue
    exact ⟨c, rest, hkey, hc⟩
  · rw [itemChars_of_ne hvalue, hkey]
    exact ⟨c, _, rfl, hc⟩

/-- An item with a colon behind its key contributes what the trimmed rest of it reads as. -/
theorem IsKey.read_colon (h : IsKey key) (cs : List Char) :
    Item.read (key.toList ++ ':' :: cs) =
      .entry key (.read (String.ofList (Text.trimChars cs))) := by
  have hblank : (key.toList ++ ':' :: cs).all Text.isBlank = false := by
    rw [List.all_append, h.all_isBlank, Bool.false_and]
  rw [Item.read, hblank, if_neg Bool.false_ne_true, Text.splitFirst?_append h.no_colon]
  dsimp only
  rw [h.readKey_toList, if_neg h.ne_empty]

/-- An item contributes its key and its value. -/
theorem IsKey.read_itemChars (h : IsKey key) (hvalue : value.IsReadable) :
    Item.read (itemChars key value) = .entry key value := by
  by_cases hflag : value = .bool true
  · subst hflag
    have hitem : itemChars key (.bool true) = key.toList := rfl
    rw [hitem, Item.read, h.all_isBlank, if_neg Bool.false_ne_true,
      Text.splitFirst?_of_not_mem h.no_colon]
    dsimp only
    rw [h.readKey_toList]
  · rw [itemChars_of_ne hflag, h.read_colon, TagValue.trimChars_toText hvalue,
      String.ofList_toList, TagValue.read_toText hvalue]

/-! ## Tags -/

/-- The tag of keys and values. -/
def write (pairs : List (String × TagValue)) : String :=
  String.ofList (Text.joinWith [';'] (pairs.map fun pair ↦ (writeItem pair.1 pair.2).toList))

/-- The entries of a written tag are what it was written from. -/
theorem entries_write {pairs : List (String × TagValue)} (hkeys : ∀ pair ∈ pairs, IsKey pair.1)
    (hvalues : ∀ pair ∈ pairs, pair.2.IsReadable) : entries (write pairs) = pairs := by
  have hitems : pairs.map (fun pair ↦ (writeItem pair.1 pair.2).toList) =
      (pairs.map fun pair ↦ itemChars pair.1 pair.2).map escape := by
    rw [List.map_map]
    exact List.map_congr_left fun pair hpair ↦ (hkeys pair hpair).toList_writeItem pair.2
  have hread : (pairs.map fun pair ↦ itemChars pair.1 pair.2).filterMap
      (fun item ↦ (Item.read item).pair?) = pairs := by
    rw [List.filterMap_map]
    calc pairs.filterMap ((fun item ↦ (Item.read item).pair?) ∘ fun pair ↦ itemChars pair.1 pair.2)
        = pairs.filterMap some := by
          refine List.filterMap_congr fun pair hpair ↦ ?_
          rw [Function.comp_apply, (hkeys pair hpair).read_itemChars (hvalues pair hpair)]
          rfl
      _ = pairs := List.filterMap_some
  cases pairs with
  | nil => rfl
  | cons first rest =>
    have hstarts : ∀ item ∈ rest.map fun pair ↦ itemChars pair.1 pair.2, Starts item := by
      intro item hitem
      obtain ⟨pair, hpair, rfl⟩ := List.mem_map.mp hitem
      exact (hkeys pair (List.mem_cons_of_mem first hpair)).starts_itemChars pair.2
    have hsplit := splitItems_joinWith (itemChars first.1 first.2) _ hstarts
    rw [List.map_cons] at hread
    rw [entries, write, String.toList_ofList, hitems, List.map_cons, hsplit]
    exact hread

/-- The tag of one item with a text has what the text reads as under the key, and nothing else. -/
theorem read_textItem {s : String} (hkey : IsKey key) (hs : Text.trim s = s) :
    read (textItem key s) = .ofList [(key, .read s)] := by
  have hsplit : splitItems (escape (key.toList ++ ':' :: s.toList)) =
      [key.toList ++ ':' :: s.toList] := splitItems_joinWith _ [] nofun
  have hitem : Item.read (key.toList ++ ':' :: s.toList) = .entry key (.read s) := by
    rw [hkey.read_colon, Text.trimChars_toList hs, String.ofList_toList]
  have hentries : entries (textItem key s) = [(key, .read s)] := by
    rw [entries, hkey.toList_textItem, hsplit, List.filterMap_cons, hitem]
    rfl
  rw [read, hentries]

/-- A tag that is written from distinct keys and their values is read back, in the same order. -/
theorem read_write {pairs : List (String × TagValue)} (hdistinct : (pairs.map Prod.fst).Nodup)
    (hkeys : ∀ pair ∈ pairs, IsKey pair.1) (hvalues : ∀ pair ∈ pairs, pair.2.IsReadable) :
    (read (write pairs)).entries = pairs := by
  rw [read, entries_write hkeys hvalues]
  exact OrderedMap.entries_ofList hdistinct

/-- The entries of a tag with values of every kind. -/
def mixedEntries : List (String × TagValue) :=
  [("label", .text "a:b;;"), ("hidden", .bool true), ("default", .text ""), ("list", .bool false),
    ("sort", .number (.ofNat 12))]

/-- Values that end in semicolons or hold a colon are read back among values of the other kinds. -/
theorem read_write_mixedEntries : (read (write mixedEntries)).entries = mixedEntries :=
  read_write (by decide) (by decide) (by decide +kernel)

end Tag

end FieldTags
