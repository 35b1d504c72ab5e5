import FieldTags.Config.Assembly
import FieldTags.Proofs.Number.LiteralGrammar
import FieldTags.Proofs.OrderedMap

/-!
# Numbers in configurations

The numbers of a configuration are finite, whatever rows it is assembled from: a number is read from a
literal, which never stands for an infinite one, or is one of the defaults. No row can add any other.
-/

namespace FieldTags

namespace Binary64

/-- No number of these is infinite or not a number. -/
def AllFinite (numbers : List Binary64) : Prop :=
  ∀ x ∈ numbers, x.isFinite = true

end Binary64

open Binary64 (AllFinite)

/-! ## Tags -/

namespace TagValue

def numbers : TagValue → List Binary64
  | .number x => [x]
  | _ => []

theorem allFinite_read (s : String) : AllFinite (read s).numbers := by
  unfold read
  split_ifs
  · exact nofun
  · exact nofun
  · exact nofun
  · split
    next x hx =>
      intro y hy
      rw [List.mem_singleton.mp hy]
      exact Binary64.isFinite_of_ofText? hx
    · exact nofun

end TagValue

theorem Tag.allFinite_read {tag : String} {entry : String × TagValue}
    (h : entry ∈ (read tag).entries) : AllFinite entry.2.numbers := by
  have hentry : entry ∈ entries tag := OrderedMap.mem_of_mem_ofList h
  obtain ⟨item, -, hitem⟩ := List.mem_filterMap.mp hentry
  unfold Item.read at hitem
  split at hitem
  · cases hitem
  · split at hitem
    · cases hitem
      exact nofun
    · dsimp only at hitem
      split at hitem
      · cases hitem
      · cases hitem
        exact TagValue.allFinite_read _

theorem Tag.allFinite_of_find? {tag key : String} {value : TagValue}
    (h : (read tag).find? key = some value) : AllFinite value.numbers :=
  allFinite_read (OrderedMap.find?_eq_some_iff.mp h)

/-! ## Fields -/

namespace AttributeKind

def numbers : (kind : AttributeKind) → kind.Value → List Binary64
  | .number, x => [x]
  | .scalar, value => value.numbers
  | .params, .scalar value => value.numbers
  | _, _ => []

theorem allFinite_read (kind : AttributeKind) {value : TagValue} {result : kind.Value}
    (hvalue : AllFinite value.numbers) (h : kind.read value = some result) :
    AllFinite (kind.numbers result) := by
  cases kind with
  | text => exact nofun
  | flag => exact nofun
  | list => exact nofun
  | scalar =>
    cases h
    exact hvalue
  | number =>
    cases value with
    | bool b => cases h
    | number x =>
      cases h
      exact hvalue
    | text s =>
      intro x hx
      rw [List.mem_singleton.mp hx]
      exact Binary64.isFinite_of_ofText? h
  | params =>
    cases value with
    | text s =>
      cases h
      exact nofun
    | bool b =>
      cases h
      exact nofun
    | number x =>
      cases h
      exact hvalue

end AttributeKind

namespace FieldConfig

def numbers (config : FieldConfig) : List Binary64 :=
  FieldAttribute.all.flatMap fun a ↦ (config a).toList.flatMap (AttributeKind.numbers a.kind)

theorem allFinite_ofTag (tag : String) : AllFinite (ofTag (Tag.read tag)).numbers := by
  intro x hx
  obtain ⟨a, -, ha⟩ := List.mem_flatMap.mp hx
  obtain ⟨result, hresult, hmem⟩ := List.mem_flatMap.mp ha
  obtain ⟨value, hvalue, hread⟩ := Option.bind_eq_some_iff.mp (Option.mem_toList.mp hresult)
  exact AttributeKind.allFinite_read a.kind (Tag.allFinite_of_find? hvalue) hread x hmem

end FieldConfig

/-! ## Models -/

namespace ModelSettings

def numbers (settings : ModelSettings) : List Binary64 :=
  settings.actionWidth.toList.flatMap TagValue.numbers ++
    settings.searchDefaultCount.toList.flatMap TagValue.numbers

theorem allFinite_iff {settings : ModelSettings} :
    AllFinite settings.numbers ↔ (∀ value ∈ settings.actionWidth, AllFinite value.numbers) ∧
      ∀ value ∈ settings.searchDefaultCount, AllFinite value.numbers := by
  have hpart (set : Option TagValue) :
      AllFinite (set.toList.flatMap TagValue.numbers) ↔ ∀ value ∈ set, AllFinite value.numbers := by
    cases set <;> simp [AllFinite]
  rw [← hpart, ← hpart, numbers, AllFinite, List.forall_mem_append]
  rfl

theorem allFinite_ofTag (tag : String) : AllFinite (ofTag (Tag.read tag)).numbers :=
  allFinite_iff.mpr ⟨fun _ h ↦ Tag.allFinite_of_find? h, fun _ h ↦ Tag.allFinite_of_find? h⟩

theorem allFinite_overlay {base next : ModelSettings} (hbase : AllFinite base.numbers)
    (hnext : AllFinite next.numbers) : AllFinite (base.overlay next).numbers := by
  have hpart {set other : Option TagValue} (hset : ∀ value ∈ set, AllFinite value.numbers)
      (hother : ∀ value ∈ other, AllFinite value.numbers) :
      ∀ value ∈ (set <|> other), AllFinite value.numbers := by
    cases set with
    | none => exact hother
    | some value => exact hset
  rw [allFinite_iff] at hbase hnext ⊢
  exact ⟨hpart hnext.1 hbase.1, hpart hnext.2 hbase.2⟩

theorem allFinite_withDefaults {settings : ModelSettings} (h : AllFinite settings.numbers) :
    AllFinite settings.withDefaults.numbers := by
  have hpart {set : Option TagValue} {n : Nat} (hn : n < 2 ^ 8)
      (hset : ∀ value ∈ set, AllFinite value.numbers) :
      ∀ value ∈ orNumber set n, AllFinite value.numbers := by
    have hdefault : ∀ value ∈ some (TagValue.number (.ofNat n)), AllFinite value.numbers := by
      intro value hvalue x hx
      cases hvalue
      rw [List.mem_singleton.mp hx]
      exact Binary64.isFinite_ofNat (by decide) hn
    unfold orNumber
    split
    next given =>
      split
      · exact hset
      · exact hdefault
    · exact hdefault
  rw [allFinite_iff] at h ⊢
  exact ⟨hpart (by decide) h.1, hpart (by decide) h.2⟩

end ModelSettings

namespace ModelConfig

def numbers (config : ModelConfig) : List Binary64 :=
  config.settings.numbers ++ config.fields.entries.flatMap fun entry ↦ entry.2.numbers

theorem allFinite_iff {config : ModelConfig} :
    AllFinite config.numbers ↔ AllFinite config.settings.numbers ∧
      ∀ entry ∈ config.fields.entries, AllFinite entry.2.numbers := by
  rw [numbers, AllFinite, List.forall_mem_append]
  refine and_congr_right fun _ ↦ ?_
  constructor
  · intro h entry hentry x hx
    exact h x (List.mem_flatMap.mpr ⟨entry, hentry, hx⟩)
  · intro h x hx
    obtain ⟨entry, hentry, hmem⟩ := List.mem_flatMap.mp hx
    exact h entry hentry x hmem

/-- A row adds finite numbers only. -/
theorem allFinite_addRow {config : ModelConfig} (h : AllFinite config.numbers) (row : TagRow) :
    AllFinite (config.addRow row).numbers := by
  rw [allFinite_iff] at h ⊢
  unfold addRow
  dsimp only
  split
  -- A row is laid over the settings, hides its field, or gives it a value of its own.
  · exact ⟨ModelSettings.allFinite_overlay h.1 (ModelSettings.allFinite_ofTag row.tag), h.2⟩
  · split
    · exact h
    · refine ⟨h.1, ?_⟩
      intro entry hentry
      rcases OrderedMap.mem_setEntry hentry with rfl | hold
      · exact FieldConfig.allFinite_ofTag row.tag
      · exact h.2 entry hold

theorem allFinite_foldl_addRow (rows : List TagRow) {config : ModelConfig}
    (h : AllFinite config.numbers) : AllFinite (rows.foldl addRow config).numbers := by
  induction rows generalizing config with
  | nil => exact h
  | cons row rows ih => exact ih (allFinite_addRow h row)

/-- The numbers of an assembled configuration are finite. -/
theorem allFinite_assemble (model : String) (rows : List TagRow) :
    AllFinite (assemble model rows).numbers := by
  have hstart : AllFinite (start model).numbers := nofun
  have hrows := allFinite_iff.mp (allFinite_foldl_addRow rows hstart)
  exact allFinite_iff.mpr ⟨ModelSettings.allFinite_withDefaults hrows.1, hrows.2⟩

end ModelConfig

end FieldTags
