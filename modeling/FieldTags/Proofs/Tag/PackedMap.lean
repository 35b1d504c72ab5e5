import FieldTags.Config.Model
import FieldTags.Proofs.Number.LiteralCharacters
import FieldTags.Proofs.Tag.RoundTrip

/-!
# Maps packed into one value

The pairs of a map are joined with semicolons into the text of one value, and in the tag every
semicolon of this text is doubled. Reading undoes this in two steps, each of which trims and cuts at
a first separator. The text of a map is never read as a number or a truth value: it is empty or has
an equals sign. A map comes back if its keys and values are trimmed and free of the separators that
end them.
-/

namespace FieldTags

/-- A trimmed text with an equals sign is read as itself. -/
theorem TagValue.isReadable_of_equals {s : String} (htrim : Text.trimChars s.toList = s.toList)
    (h : '=' ∈ s.toList) : (TagValue.text s).IsReadable := by
  have hempty : s ≠ "" := by
    rintro rfl
    exact absurd h List.not_mem_nil
  have hword (word : String) (hword : '=' ∉ word.toList) : s.toLower ≠ word := by
    rintro rfl
    apply hword
    have hlower : s.toLower = s.map Char.toLower := rfl
    rw [hlower, String.toList_map]
    exact List.mem_map_of_mem (f := Char.toLower) h
  have hnumber : Binary64.ofText? s = none := by
    rw [Binary64.ofText?, htrim]
    exact Literal.readChars_of_mem h (by decide)
  constructor
  · rw [Text.trim, htrim, String.ofList_toList]
  · rw [read, if_neg hempty, if_neg (hword "true" (by decide)), if_neg (hword "false" (by decide)),
      hnumber]

/-! ## Packed maps -/

namespace Packed

/-- A pair whose key and value are trimmed and free of the separators that end them. -/
structure IsPackable (pair : String × String) : Prop where
  key_ne_empty : pair.1 ≠ ""
  trim_key : Text.trim pair.1 = pair.1
  key_no_equals : '=' ∉ pair.1.toList
  key_no_semicolon : ';' ∉ pair.1.toList
  trim_value : Text.trim pair.2 = pair.2
  value_no_semicolon : ';' ∉ pair.2.toList

instance (pair : String × String) : Decidable (IsPackable pair) :=
  decidable_of_iff (pair.1 ≠ "" ∧ Text.trim pair.1 = pair.1 ∧ '=' ∉ pair.1.toList ∧
      ';' ∉ pair.1.toList ∧ Text.trim pair.2 = pair.2 ∧ ';' ∉ pair.2.toList)
    ⟨fun ⟨ne, trimKey, equals, semicolon, trimValue, free⟩ ↦
        ⟨ne, trimKey, equals, semicolon, trimValue, free⟩,
      fun h ↦ ⟨h.key_ne_empty, h.trim_key, h.key_no_equals, h.key_no_semicolon, h.trim_value,
        h.value_no_semicolon⟩⟩

/-- The text of a pair. -/
def pairChars (pair : String × String) : List Char :=
  pair.1.toList ++ '=' :: pair.2.toList

/-- The text of a map: its pairs in order with semicolons between them. -/
def writeMap (m : OrderedMap String) : String :=
  String.ofList (Text.joinWith [';'] (m.entries.map pairChars))

/-- The item of a tag that gives a key the text of a map, with every semicolon of it doubled. -/
def item (key : String) (m : OrderedMap String) : String :=
  key ++ ":" ++ String.ofList (Tag.escape (writeMap m).toList)

section Pairs

variable {pair : String × String}

theorem IsPackable.not_mem_pairChars (h : IsPackable pair) : ';' ∉ pairChars pair := by
  intro hmem
  rcases List.mem_append.mp hmem with hkey | hvalue
  · exact h.key_no_semicolon hkey
  · exact h.value_no_semicolon (List.mem_of_ne_of_mem (by decide) hvalue)

theorem IsPackable.trimChars_pairChars (h : IsPackable pair) :
    Text.trimChars (pairChars pair) = pairChars pair :=
  Text.trimChars_append_cons (Text.trimChars_toList h.trim_key)
    (fun hnil ↦ h.key_ne_empty (String.toList_eq_nil_iff.mp hnil)) (by decide)
    (Text.trimChars_toList h.trim_value)

/-- The text of a pair is cut at its first equals sign. -/
theorem IsPackable.readPair?_pairChars (h : IsPackable pair) : readPair? (pairChars pair) = some pair := by
  rw [readPair?, pairChars, Text.splitFirst?_append h.key_no_equals]
  dsimp only
  rw [Text.trimChars_toList h.trim_key, Text.trimChars_toList h.trim_value, String.ofList_toList,
    String.ofList_toList, if_neg h.key_ne_empty]

end Pairs

section Maps

variable {m : OrderedMap String}

/-- The text of a map has an equals sign, or there is nothing in the map. -/
theorem isReadable_writeMap (h : ∀ pair ∈ m.entries, IsPackable pair) :
    (TagValue.text (writeMap m)).IsReadable := by
  have htrim : ∀ pairs : List (String × String), (∀ pair ∈ pairs, IsPackable pair) →
      Text.trimChars (Text.joinWith [';'] (pairs.map pairChars)) =
        Text.joinWith [';'] (pairs.map pairChars) := by
    intro pairs hpairs
    induction pairs with
    | nil => rfl
    | cons pair pairs ih =>
      have hpair := hpairs pair List.mem_cons_self
      cases pairs with
      | nil => exact hpair.trimChars_pairChars
      | cons next more =>
        have htail := ih fun other hother ↦ hpairs other (List.mem_cons_of_mem _ hother)
        rw [List.map_cons, List.map_cons, Text.joinWith_cons_cons, ← List.map_cons]
        exact Text.trimChars_append_cons hpair.trimChars_pairChars (by simp [pairChars]) (by decide)
          htail
  cases hentries : m.entries with
  | nil =>
    have hempty : writeMap m = "" := by
      rw [writeMap, hentries]
      rfl
    rw [hempty]
    decide
  | cons pair pairs =>
    apply TagValue.isReadable_of_equals
    · rw [writeMap, String.toList_ofList]
      exact htrim m.entries h
    · have hfirst : '=' ∈ pairChars pair := List.mem_append_right _ List.mem_cons_self
      rw [writeMap, hentries, String.toList_ofList, List.map_cons]
      cases pairs with
      | nil => exact hfirst
      | cons next more =>
        exact List.mem_append_left _ (List.mem_append_left _ hfirst)

/-- The text of a map holds the map. -/
theorem readMap_writeMap {needsValue : Bool} (h : ∀ pair ∈ m.entries, IsPackable pair)
    (hvalues : needsValue = true → ∀ pair ∈ m.entries, pair.2 ≠ "") :
    readMap needsValue (writeMap m) = m := by
  have hsplit : (Text.splitAll ';' (Text.joinWith [';'] (m.entries.map pairChars))).filterMap
      readPair? = m.entries := by
    cases hentries : m.entries with
    | nil => rfl
    | cons first rest =>
      rw [← hentries, Text.splitAll_joinWith, List.filterMap_map]
      · calc m.entries.filterMap (readPair? ∘ pairChars)
            = m.entries.filterMap some :=
              List.filterMap_congr fun pair hpair ↦ (h pair hpair).readPair?_pairChars
          _ = m.entries := List.filterMap_some
      · rw [hentries]
        exact List.cons_ne_nil _ _
      · intro piece hpiece
        obtain ⟨pair, hpair, rfl⟩ := List.mem_map.mp hpiece
        exact (h pair hpair).not_mem_pairChars
  have hpairs : pairs needsValue (writeMap m) = m.entries := by
    rw [pairs, writeMap, String.toList_ofList, hsplit, List.filter_eq_self]
    intro pair hpair
    cases needsValue with
    | false => rfl
    | true => simp [hvalues rfl pair hpair]
  apply OrderedMap.ext_entries
  rw [readMap, hpairs, OrderedMap.entries_ofList m.nodup_keys]

/-- The tag of a packed map has the text of the map under its key and nothing else. -/
theorem read_item {key : String} (hkey : Tag.IsKey key) (h : ∀ pair ∈ m.entries, IsPackable pair) :
    Tag.read (item key m) = .ofList [(key, .text (writeMap m))] := by
  obtain ⟨htrim, hread⟩ := isReadable_writeMap h
  have hitem : item key m = Tag.textItem key (writeMap m) := rfl
  rw [hitem, Tag.read_textItem hkey htrim, hread]

end Maps

end Packed

/-! ## Resolving packed maps -/

namespace ActionAttribute

theorem isKey_key (setting : ActionAttribute) : Tag.IsKey setting.key := by
  cases setting <;> decide +kernel

theorem key_inj {setting other : ActionAttribute} : other.key = setting.key ↔ other = setting := by
  cases setting <;> cases other <;> decide

end ActionAttribute

/-- A tag with a text under the key of one setting gives the model this setting and nothing else. -/
theorem ModelSettings.ofTag_single (setting : ActionAttribute) (s : String) :
    ofTag (.ofList [(setting.key, .text s)]) =
      { empty with
        action := fun other ↦ if other = setting then some (Packed.readMap true s) else none } := by
  have hmodel : ModelAttribute.model.key ≠ setting.key := by cases setting <;> decide
  have hactions : ModelAttribute.actions.key ≠ setting.key := by cases setting <;> decide
  have hwidth : ModelAttribute.actionWidth.key ≠ setting.key := by cases setting <;> decide
  have hcount : ModelAttribute.searchDefaultCount.key ≠ setting.key := by cases setting <;> decide
  unfold ofTag
  simp only [OrderedMap.find?_singleton, if_neg hmodel, if_neg hactions, if_neg hwidth, if_neg hcount]
  refine congrArg (fun action ↦ { empty with action }) (funext fun other ↦ ?_)
  by_cases h : other = setting
  · rw [if_pos h, if_pos (ActionAttribute.key_inj.mpr h)]
  · rw [if_neg h, if_neg (mt ActionAttribute.key_inj.mp h)]

/-- A tag with a text under the key of the parameters sets the parameters and nothing else. -/
theorem FieldConfig.ofTag_single_apiParams (s : String) (a : FieldAttribute) :
    ofTag (.ofList [(FieldAttribute.apiParams.key, .text s)]) a =
      if h : a = .apiParams then h ▸ some (.pairs (Packed.readMap false s)) else none := by
  have hkey : a.key = FieldAttribute.apiParams.key ↔ a = .apiParams := by cases a <;> decide
  rw [ofTag, OrderedMap.find?_singleton]
  by_cases h : a = .apiParams
  · subst h
    rfl
  · rw [if_neg (mt hkey.mp h), dif_neg h]
    rfl

namespace Packed

/-- A map that is packed into the item of a setting, or of the parameters, is what reading and
resolving the item gives, and nothing else is set. -/
theorem resolve_read_item (m : OrderedMap String) (h : ∀ pair ∈ m.entries, IsPackable pair) :
    ((∀ pair ∈ m.entries, pair.2 ≠ "") → ∀ setting : ActionAttribute,
      ModelSettings.ofTag (Tag.read (item setting.key m)) =
        { ModelSettings.empty with
          action := fun other ↦ if other = setting then some m else none }) ∧
      FieldConfig.ofTag (Tag.read (item FieldAttribute.apiParams.key m)) .apiParams =
        some (.pairs m) ∧
      ∀ a, a ≠ .apiParams →
        FieldConfig.ofTag (Tag.read (item FieldAttribute.apiParams.key m)) a = none := by
  have hparams : Tag.read (item FieldAttribute.apiParams.key m) =
      .ofList [(FieldAttribute.apiParams.key, .text (writeMap m))] :=
    read_item (by decide +kernel) h
  refine ⟨?_, ?_, ?_⟩
  · intro hvalues setting
    have hmap : readMap true (writeMap m) = m := readMap_writeMap h fun _ ↦ hvalues
    rw [read_item setting.isKey_key h, ModelSettings.ofTag_single, hmap]
  · have hmap : readMap false (writeMap m) = m :=
      readMap_writeMap h fun hfalse ↦ absurd hfalse Bool.false_ne_true
    rw [hparams, FieldConfig.ofTag_single_apiParams, dif_pos rfl, hmap]
  · intro a ha
    rw [hparams, FieldConfig.ofTag_single_apiParams, dif_neg ha]

/-- A map whose keys and values hold separators that do not end them, or look like scalars. -/
def mixedMap : OrderedMap String :=
  .ofList [("edit", "row.a == 1"), ("a:b", "true"), ("12", "0x1f")]

/-- The map comes back as the conditions of a model and as the parameters of a field, and the empty
map does so too. -/
theorem resolve_read_item_mixedMap :
    (ModelSettings.ofTag (Tag.read (item "action-item-condition" mixedMap))).action .condition =
        some mixedMap ∧
      FieldConfig.ofTag (Tag.read (item "api-params" mixedMap)) .apiParams =
        some (.pairs mixedMap) ∧
      FieldConfig.ofTag (Tag.read (item "api-params" .empty)) .apiParams = some (.pairs .empty) := by
  have hmixed : ∀ pair ∈ mixedMap.entries, IsPackable pair := by decide +kernel
  obtain ⟨hsettings, hparams, -⟩ := resolve_read_item mixedMap hmixed
  refine ⟨?_, hparams, ?_⟩
  · exact congrArg (fun settings ↦ settings.action .condition)
      (hsettings (by decide +kernel) .condition)
  · exact (resolve_read_item .empty (by decide)).2.1

end Packed

end FieldTags
