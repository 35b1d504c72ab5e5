import FieldTags.Check.Validation
import FieldTags.Proofs.Config.Assembly
import FieldTags.Proofs.Config.JsonForm
import FieldTags.Proofs.Config.TextAttributes
import FieldTags.Proofs.Tag.PackedMap
import Mathlib.Data.List.Nodup

/-!
# Keys and their attributes

Every attribute is read from the value under its own key, and no two attributes have one key. An
edit of a tag under one key therefore changes at most the attribute with this key, and it changes
nothing under a key that is reported to be unknown. If the rows lose the entries under the keys that
are reported of them, the same configuration is assembled.
-/

namespace FieldTags

/-! ## Attributes by their keys -/

/-- If all values are listed and no two of them have one key, the value that is found under a key is
the one that has it. -/
theorem find?_key_eq_some_iff {α : Type} {all : List α} {key : α → String}
    (hall : ∀ a, a ∈ all) (hnodup : (all.map key).Nodup) {name : String} {a : α} :
    all.find? (fun b ↦ key b = name) = some a ↔ key a = name := by
  constructor
  · intro h
    simpa using List.find?_some h
  · rintro rfl
    have hsome : (all.find? fun b ↦ key b = key a).isSome = true :=
      List.find?_isSome.mpr ⟨a, hall a, decide_eq_true rfl⟩
    obtain ⟨b, hb⟩ := Option.isSome_iff_exists.mp hsome
    have hkey : key b = key a := by simpa using List.find?_some hb
    rwa [List.inj_on_of_nodup_map hnodup (hall b) (hall a) hkey] at hb

theorem FieldAttribute.ofKey?_eq_some_iff {key : String} {a : FieldAttribute} :
    ofKey? key = some a ↔ a.key = key :=
  find?_key_eq_some_iff mem_all (by decide +kernel)

namespace ModelAttribute

theorem ofKey?_eq_some_iff {key : String} {a : ModelAttribute} :
    ofKey? key = some a ↔ a.key = key :=
  find?_key_eq_some_iff mem_all (by decide +kernel)

theorem isKey_key (a : ModelAttribute) : Tag.IsKey a.key := by
  cases a with
  | action setting => exact setting.isKey_key
  | _ => decide +kernel

end ModelAttribute

/-! ## What is read from which key -/

/-- The values of a tag with those of one key added, replaced or removed. -/
inductive TagMap.Edits (tag : TagMap) (key : String) : TagMap → Prop
  | set (value : TagValue) : Edits tag key (tag.insert key value)
  | remove : Edits tag key (tag.erase key)

/-- An edit leaves the values under all other keys as they are. -/
theorem TagMap.Edits.find?_eq {tag other : TagMap} {key name : String} (h : tag.Edits key other)
    (hname : name ≠ key) : other.find? name = tag.find? name := by
  cases h with
  | set value => rw [OrderedMap.find?_insert, if_neg hname]
  | remove => rw [OrderedMap.find?_erase, if_neg hname]

/-- What is read from a tag has attributes with keys of their own: `SameAt a x y` says that `x` and
`y` have the same value of the attribute `a`. -/
structure ReadsByKeys {α γ : Type} (ofTag : TagMap → γ) (SameAt : α → γ → γ → Prop)
    (key : α → String) (ofKey? : String → Option α) : Prop where
  /-- An attribute depends on nothing but the value under its own key. -/
  own : ∀ (a : α) (tag other : TagMap), other.find? (key a) = tag.find? (key a) →
    SameAt a (ofTag other) (ofTag tag)
  /-- An edit changes at most the attribute that the edited key belongs to. -/
  edit : ∀ (name : String) (tag other : TagMap), tag.Edits name other →
    ∀ a, ofKey? name ≠ some a → SameAt a (ofTag other) (ofTag tag)
  /-- An edit under a key of no attribute changes nothing. -/
  unknown : ∀ (name : String) (tag other : TagMap), tag.Edits name other → ofKey? name = none →
    ofTag other = ofTag tag

/-- If every attribute is read from its own key, edits have the effects that they should have. -/
theorem ReadsByKeys.of_own {α γ : Type} {ofTag : TagMap → γ} {SameAt : α → γ → γ → Prop}
    {key : α → String} {ofKey? : String → Option α}
    (hkey : ∀ {name a}, ofKey? name = some a ↔ key a = name)
    (hsame : ∀ x y, (∀ a, SameAt a x y) → x = y)
    (hown : ∀ (a : α) (tag other : TagMap), other.find? (key a) = tag.find? (key a) →
      SameAt a (ofTag other) (ofTag tag)) :
    ReadsByKeys ofTag SameAt key ofKey? := by
  have hedit (name : String) (tag other : TagMap) (h : tag.Edits name other) (a : α)
      (ha : ofKey? name ≠ some a) : SameAt a (ofTag other) (ofTag tag) := by
    apply hown
    apply h.find?_eq
    intro heq
    exact ha (hkey.mpr heq)
  refine ⟨hown, hedit, ?_⟩
  intro name tag other h hunknown
  apply hsame
  intro a
  apply hedit name tag other h
  rw [hunknown]
  exact nofun

/-- The configuration of a field is read by the keys of its attributes. -/
theorem FieldConfig.readsByKeys :
    ReadsByKeys FieldConfig.ofTag (fun a x y ↦ x a = y a) FieldAttribute.key
      FieldAttribute.ofKey? := by
  apply ReadsByKeys.of_own FieldAttribute.ofKey?_eq_some_iff
  · intro x y h
    exact funext h
  · intro a tag other h
    rw [ofTag, ofTag, h]

namespace ModelSettings

def SameAt : ModelAttribute → ModelSettings → ModelSettings → Prop
  | .model, x, y => x.model = y.model
  | .actions, x, y => x.actions = y.actions
  | .actionWidth, x, y => x.actionWidth = y.actionWidth
  | .action setting, x, y => x.action setting = y.action setting
  | .searchDefaultCount, x, y => x.searchDefaultCount = y.searchDefaultCount

theorem eq_of_sameAt {x y : ModelSettings} (h : ∀ a, SameAt a x y) : x = y := by
  have hmodel : x.model = y.model := h .model
  have hactions : x.actions = y.actions := h .actions
  have hwidth : x.actionWidth = y.actionWidth := h .actionWidth
  have haction : x.action = y.action := funext fun setting ↦ h (.action setting)
  have hcount : x.searchDefaultCount = y.searchDefaultCount := h .searchDefaultCount
  cases x
  cases y
  simp only [mk.injEq]
  exact ⟨hmodel, hactions, hwidth, haction, hcount⟩

/-- The settings of a model are read by the keys of its attributes. -/
theorem readsByKeys :
    ReadsByKeys ModelSettings.ofTag SameAt ModelAttribute.key ModelAttribute.ofKey? := by
  apply ReadsByKeys.of_own ModelAttribute.ofKey?_eq_some_iff
  · intro x y h
    exact eq_of_sameAt h
  · intro a tag other h
    cases a with
    | model => rw [SameAt, ofTag, ofTag, h]
    | actions => rw [SameAt, ofTag, ofTag, h]
    | actionWidth => exact h
    | action setting =>
      rw [ModelAttribute.key] at h
      simp only [SameAt, ofTag, h]
    | searchDefaultCount => exact h

end ModelSettings

/-! ## Reported keys -/

namespace Problem

def ofUnknownKey (row : TagRow) (key : String) : Problem :=
  if row.isSettings then .unknownModelKey key else .unknownFieldKey row.field key

theorem eq_of_enclosed {before after s t : String}
    (h : before ++ s ++ after = before ++ t ++ after) : s = t := by
  rwa [String.append_left_inj, String.append_right_inj] at h

/-- What is reported of a key of a model says which key it is. -/
theorem eq_of_finding_unknownModelKey {p : Problem} {model key : String}
    (h : p.finding model = (unknownModelKey key).finding model) : p = unknownModelKey key := by
  have hcode : p.code = "UIT-W006" := congrArg Finding.code h
  have hmessage : p.message = (unknownModelKey key).message := congrArg Finding.message h
  cases p with
  | unknownModelKey other =>
    have hkey : other = key := eq_of_enclosed hmessage
    rw [hkey]
  | _ => simp [code] at hcode

/-- What is reported of a key of a field says which key it is, and of which field. -/
theorem eq_of_finding_unknownFieldKey {p : Problem} {model field key : String}
    (h : p.finding model = (unknownFieldKey field key).finding model) :
    p = unknownFieldKey field key := by
  have hcode : p.code = "UIT-W005" := congrArg Finding.code h
  have hfield : p.field? = some field := congrArg Finding.field h
  have hmessage : p.message = (unknownFieldKey field key).message := congrArg Finding.message h
  cases p with
  | unknownFieldKey name other =>
    have hkey : other = key := eq_of_enclosed hmessage
    rw [hkey, Option.some.inj hfield]
  | _ => simp [code] at hcode

theorem eq_of_finding_ofUnknownKey {p : Problem} {model key : String} {row : TagRow}
    (h : p.finding model = (ofUnknownKey row key).finding model) : p = ofUnknownKey row key := by
  cases hsettings : row.isSettings with
  | true =>
    rw [ofUnknownKey, hsettings, if_pos rfl] at h ⊢
    exact eq_of_finding_unknownModelKey h
  | false =>
    rw [ofUnknownKey, hsettings, if_neg Bool.false_ne_true] at h ⊢
    exact eq_of_finding_unknownFieldKey h

theorem severity_ofUnknownKey (row : TagRow) (key : String) :
    (ofUnknownKey row key).severity = .warning := by
  unfold ofUnknownKey
  split <;> rfl

/-- Unknown keys are told apart by the keys and by the names of their rows. -/
theorem ofUnknownKey_inj {row other : TagRow} {key name : String} :
    ofUnknownKey other name = ofUnknownKey row key ↔ other.field = row.field ∧ name = key := by
  have hsettings (row : TagRow) : row.isSettings = true ↔ row.field = TagRow.settingsField :=
    beq_iff_eq
  rw [ofUnknownKey, ofUnknownKey]
  by_cases hother : other.isSettings = true
  · by_cases hrow : row.isSettings = true
    · rw [if_pos hother, if_pos hrow, unknownModelKey.injEq]
      have hfield := ((hsettings other).mp hother).trans ((hsettings row).mp hrow).symm
      exact (and_iff_right hfield).symm
    · rw [if_pos hother, if_neg hrow]
      refine iff_of_false nofun fun h ↦ hrow ?_
      exact (hsettings row).mpr (h.1.symm.trans ((hsettings other).mp hother))
  · by_cases hrow : row.isSettings = true
    · rw [if_neg hother, if_pos hrow]
      refine iff_of_false nofun fun h ↦ hother ?_
      exact (hsettings other).mpr (h.1.trans ((hsettings row).mp hrow))
    · rw [if_neg hother, if_neg hrow, unknownFieldKey.injEq]

end Problem

namespace TagRow

variable {model key : String} {rows : List TagRow} {row : TagRow}

/-- The report about rows says of a row that no attribute has this key. -/
def ReportsKey (model : String) (rows : List TagRow) (row : TagRow) (key : String) : Prop :=
  (Problem.ofUnknownKey row key).finding model ∈ (validate model rows).warnings

instance : Decidable (ReportsKey model rows row key) :=
  inferInstanceAs (Decidable (_ ∈ _))

theorem mem_unknownKeys_iff : key ∈ row.unknownKeys ↔
    key ∈ (Tag.read row.tag).keys ∧
      (row.isSettings = true → ModelAttribute.ofKey? key = none) ∧
      (row.isField = true → FieldAttribute.ofKey? key = none) := by
  rw [unknownKeys, List.mem_filter, isField]
  cases row.isSettings <;> simp

/-- A key is reported of a row exactly if a row of the same name has it and no attribute does. -/
theorem reportsKey_iff : ReportsKey model rows row key ↔
    ∃ other ∈ rows, other.field = row.field ∧ key ∈ other.unknownKeys := by
  have hproblems (other : TagRow) : other.problems =
      other.unknownKeys.map (Problem.ofUnknownKey other) := rfl
  simp only [ReportsKey, validate, Report.ofProblems, List.mem_filter, List.mem_map,
    List.mem_flatMap, hproblems, decide_eq_true_eq]
  constructor
  · rintro ⟨⟨p, ⟨other, hother, name, hname, rfl⟩, hfinding⟩, -⟩
    obtain ⟨hfield, rfl⟩ :=
      Problem.ofUnknownKey_inj.mp (Problem.eq_of_finding_ofUnknownKey hfinding)
    exact ⟨other, hother, hfield, hname⟩
  · rintro ⟨other, hother, hfield, hkey⟩
    have hsame : Problem.ofUnknownKey other key = Problem.ofUnknownKey row key :=
      Problem.ofUnknownKey_inj.mpr ⟨hfield, rfl⟩
    exact ⟨⟨_, ⟨other, hother, key, hkey, hsame⟩, rfl⟩, Problem.severity_ofUnknownKey row key⟩

/-- A reported key belongs to no attribute that the row could set. -/
theorem ReportsKey.ofKey?_eq_none (h : ReportsKey model rows row key) :
    (row.isSettings = true → ModelAttribute.ofKey? key = none) ∧
      (row.isField = true → FieldAttribute.ofKey? key = none) := by
  obtain ⟨other, -, hfield, hkey⟩ := reportsKey_iff.mp h
  have hsettings : other.isSettings = row.isSettings := by rw [isSettings, isSettings, hfield]
  have hunknown := (mem_unknownKeys_iff.mp hkey).2
  rwa [isField, hsettings] at hunknown

/-- A key of a row that is not reported belongs to an attribute. -/
theorem isKey_of_not_reportsKey (hrow : row ∈ rows) (hkey : key ∈ (Tag.read row.tag).keys)
    (h : ¬ ReportsKey model rows row key) : Tag.IsKey key := by
  have hknown : key ∉ row.unknownKeys := by
    intro hunknown
    exact h (reportsKey_iff.mpr ⟨row, hrow, rfl, hunknown⟩)
  rw [mem_unknownKeys_iff, and_iff_right hkey] at hknown
  cases hmodel : ModelAttribute.ofKey? key with
  | some a => exact ModelAttribute.ofKey?_eq_some_iff.mp hmodel ▸ a.isKey_key
  | none =>
    cases hfield : FieldAttribute.ofKey? key with
    | some a => exact FieldAttribute.ofKey?_eq_some_iff.mp hfield ▸ a.isKey_key
    | none => exact absurd ⟨fun _ ↦ hmodel, fun _ ↦ hfield⟩ hknown

end TagRow

/-! ## Configurations without reported keys -/

/-- A written tag of keys and values that can be read is read back. -/
theorem Tag.read_write_of_isKey {tag : TagMap} (hkeys : ∀ pair ∈ tag.entries, IsKey pair.1)
    (hvalues : ∀ pair ∈ tag.entries, pair.2.IsReadable) : read (write tag.entries) = tag := by
  apply OrderedMap.ext_entries
  rw [read, entries_write hkeys hvalues, OrderedMap.entries_ofList tag.nodup_keys]

namespace TagRow

variable {model : String} {rows : List TagRow} {row : TagRow}

/-- What the tag of a row says under keys that are not reported. -/
def knownTag (model : String) (rows : List TagRow) (row : TagRow) : TagMap :=
  (Tag.read row.tag).filterKeys fun key ↦ ¬ ReportsKey model rows row key

/-- A row with a tag that says what is not reported, and nothing else. -/
def withoutReported (model : String) (rows : List TagRow) (row : TagRow) : TagRow :=
  ⟨row.field, Tag.write (knownTag model rows row).entries⟩

/-- The keys that are left belong to attributes, so the new tag says what was left of the old
one. -/
theorem read_withoutReported (hrow : row ∈ rows) :
    Tag.read (withoutReported model rows row).tag = knownTag model rows row := by
  have hleft : ∀ pair ∈ (knownTag model rows row).entries,
      pair ∈ (Tag.read row.tag).entries ∧ ¬ ReportsKey model rows row pair.1 := by
    intro pair hpair
    obtain ⟨hmem, hkept⟩ := List.mem_filter.mp hpair
    exact ⟨hmem, of_decide_eq_true hkept⟩
  apply Tag.read_write_of_isKey
  · intro pair hpair
    obtain ⟨hmem, hreported⟩ := hleft pair hpair
    exact isKey_of_not_reportsKey hrow (List.mem_map_of_mem hmem) hreported
  · intro pair hpair
    obtain ⟨item, hitem⟩ := Tag.exists_item_of_mem (hleft pair hpair).1
    exact (Tag.entry_of_read hitem).1

/-- A key that is not reported has the value that it had. -/
theorem find?_knownTag {key : String} (h : ¬ ReportsKey model rows row key) :
    (knownTag model rows row).find? key = (Tag.read row.tag).find? key := by
  rw [knownTag, OrderedMap.find?_filterKeys, if_pos (decide_eq_true h)]

theorem ofTag_knownTag_of_isField (h : row.isField = true) :
    FieldConfig.ofTag (knownTag model rows row) = row.asField := by
  funext a
  apply FieldConfig.readsByKeys.own a
  apply find?_knownTag
  intro hreported
  have hnone := hreported.ofKey?_eq_none.2 h
  rw [FieldAttribute.ofKey?_eq_some_iff.mpr rfl] at hnone
  cases hnone

theorem ofTag_knownTag_of_isSettings (h : row.isSettings = true) :
    ModelSettings.ofTag (knownTag model rows row) = row.asSettings := by
  apply ModelSettings.eq_of_sameAt
  intro a
  apply ModelSettings.readsByKeys.own a
  apply find?_knownTag
  intro hreported
  have hnone := hreported.ofKey?_eq_none.1 h
  rw [ModelAttribute.ofKey?_eq_some_iff.mpr rfl] at hnone
  cases hnone

end TagRow

namespace ModelConfig

/-- Only what a row says about what it carries counts. -/
theorem addRow_congr {row other : TagRow} (hname : other.field = row.field)
    (hsettings : row.isSettings = true → other.asSettings = row.asSettings)
    (hfield : row.isField = true → other.asField = row.asField) (config : ModelConfig) :
    config.addRow other = config.addRow row := by
  have hkind : other.isSettings = row.isSettings := by
    rw [TagRow.isSettings, TagRow.isSettings, hname]
  cases h : row.isSettings with
  | true =>
    rw [addRow_of_isSettings h, addRow_of_isSettings (hkind.trans h), ModelSettings.addRow,
      ModelSettings.addRow, hsettings h]
  | false =>
    have hisField : row.isField = true := by rw [TagRow.isField, h]; rfl
    have hother : other.isField = true := by rw [TagRow.isField, hkind, h]; rfl
    rw [addRow_of_isField hisField, addRow_of_isField hother, addField, addField, TagRow.shows,
      TagRow.shows, hfield hisField, hname]

theorem addRow_withoutReported {model : String} {rows : List TagRow} {row : TagRow}
    (hrow : row ∈ rows) (config : ModelConfig) :
    config.addRow (row.withoutReported model rows) = config.addRow row := by
  apply addRow_congr
  · rfl
  · intro h
    rw [TagRow.asSettings, TagRow.read_withoutReported hrow, TagRow.ofTag_knownTag_of_isSettings h]
  · intro h
    rw [TagRow.asField, TagRow.read_withoutReported hrow, TagRow.ofTag_knownTag_of_isField h]

/-- Every attribute of a field and of a model is read from the value under its own key. What is
edited in a row under a key that is reported of it has no effect. If every row loses the entries
under the keys that are reported of it, and nothing else, the same configuration is assembled. -/
theorem unknown_keys_are_inert (model : String) (rows : List TagRow) :
    ReadsByKeys FieldConfig.ofTag (fun a x y ↦ x a = y a) FieldAttribute.key
        FieldAttribute.ofKey? ∧
      ReadsByKeys ModelSettings.ofTag ModelSettings.SameAt ModelAttribute.key
        ModelAttribute.ofKey? ∧
      (∀ row ∈ rows, ∀ key, row.ReportsKey model rows key → ∀ tag other : TagMap,
        tag.Edits key other →
          (row.isField = true → FieldConfig.ofTag other = FieldConfig.ofTag tag) ∧
          (row.isSettings = true → ModelSettings.ofTag other = ModelSettings.ofTag tag)) ∧
      (∀ row ∈ rows, Tag.read (row.withoutReported model rows).tag =
        (Tag.read row.tag).filterKeys fun key ↦ ¬ row.ReportsKey model rows key) ∧
      assemble model (rows.map (TagRow.withoutReported model rows)) = assemble model rows := by
  refine ⟨FieldConfig.readsByKeys, ModelSettings.readsByKeys, ?_, ?_, ?_⟩
  · intro row _ key hreported tag other hedits
    obtain ⟨hsettings, hfield⟩ := hreported.ofKey?_eq_none
    constructor
    · intro h
      exact FieldConfig.readsByKeys.unknown key tag other hedits (hfield h)
    · intro h
      exact ModelSettings.readsByKeys.unknown key tag other hedits (hsettings h)
  · intro row hrow
    exact TagRow.read_withoutReported hrow
  · have hfold : (rows.map (TagRow.withoutReported model rows)).foldl addRow (start model) =
        rows.foldl addRow (start model) := by
      rw [List.foldl_map]
      apply List.foldl_ext
      intro config row hrow
      exact addRow_withoutReported hrow config
    rw [assemble, assemble, hfold]

/-- Rows with a key that only models have at a field, and keys that nothing has. -/
def strayKeys : List TagRow :=
  [⟨TagRow.settingsField, "actions:view;colour:red"⟩,
    ⟨"Name", "label:Name;actions:edit;future-thing:1"⟩]

/-- The key `actions` is reported of the field and goes there. It stays in the row of settings. -/
theorem assemble_strayKeys :
    TagRow.ReportsKey "User" strayKeys ⟨"Name", "label:Name;actions:edit;future-thing:1"⟩
        "actions" ∧
      assemble "User" [⟨TagRow.settingsField, "actions:view"⟩, ⟨"Name", "label:Name"⟩] =
        assemble "User" strayKeys := by
  refine ⟨by decide +kernel, ?_⟩
  obtain ⟨-, -, -, -, hsame⟩ := unknown_keys_are_inert "User" strayKeys
  rw [← hsame]
  refine congrArg (assemble "User") ?_
  decide +kernel

end ModelConfig

end FieldTags
