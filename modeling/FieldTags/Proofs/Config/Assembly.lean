import FieldTags.Config.Assembly
import FieldTags.Proofs.OrderedMap
import Mathlib.Tactic.Common

/-!
# What the rows of a model decide

The rows of settings and the rows of fields do not meet, so only the order within each of the two
kinds matters. Each attribute of the model has the value of the last row that sets it, whatever else
this row and the others say. A field has the configuration of its last row that does not hide it; it
is therefore absent if all its rows hide it, and not already if the last one does.
-/

namespace FieldTags

namespace TagRow

def isField (row : TagRow) : Bool :=
  !row.isSettings

/-- What the tag of a row says about a field. -/
def asField (row : TagRow) : FieldConfig :=
  .ofTag (Tag.read row.tag)

/-- What the tag of a row says about a model. -/
def asSettings (row : TagRow) : ModelSettings :=
  .ofTag (Tag.read row.tag)

/-- Whether a row does not hide its field. -/
def shows (row : TagRow) : Bool :=
  row.asField .hidden ≠ some true

theorem shows_iff {row : TagRow} : row.shows = true ↔ row.asField .hidden ≠ some true :=
  decide_eq_true_iff

theorem isField_of_ne {row : TagRow} (h : row.field ≠ settingsField) : row.isField = true := by
  rw [isField, isSettings, beq_eq_false_iff_ne.mpr h]
  rfl

end TagRow

/-! ## Rows of the two kinds -/

def ModelSettings.addRow (settings : ModelSettings) (row : TagRow) : ModelSettings :=
  settings.overlay row.asSettings

namespace ModelConfig

/-- The fields with that of a row, unless the row hides it. -/
def addField (fields : OrderedMap FieldConfig) (row : TagRow) : OrderedMap FieldConfig :=
  if row.shows then fields.insert row.field row.asField else fields

section Rows

variable {row : TagRow}

theorem addRow_of_isSettings (h : row.isSettings = true) (config : ModelConfig) :
    config.addRow row = { config with settings := config.settings.addRow row } := by
  unfold addRow
  exact if_pos h

theorem addRow_of_isField (h : row.isField = true) (config : ModelConfig) :
    config.addRow row = { config with fields := addField config.fields row } := by
  have hother : ¬ row.isSettings = true := by
    intro hsettings
    rw [TagRow.isField, hsettings] at h
    exact Bool.false_ne_true h
  have hfields : config.addRow row =
      if row.asField .hidden = some true then config
      else { config with fields := config.fields.insert row.field row.asField } := by
    unfold addRow
    exact if_neg hother
  rw [hfields, addField]
  by_cases hhidden : row.asField .hidden = some true
  · rw [if_pos hhidden, if_neg fun hshows ↦ TagRow.shows_iff.mp hshows hhidden]
  · rw [if_neg hhidden, if_pos (TagRow.shows_iff.mpr hhidden)]

end Rows

/-- The rows of settings go to the settings and the other rows to the fields. -/
theorem foldl_addRow (rows : List TagRow) (config : ModelConfig) :
    rows.foldl addRow config =
      ⟨config.model, (rows.filter TagRow.isSettings).foldl ModelSettings.addRow config.settings,
        (rows.filter TagRow.isField).foldl addField config.fields⟩ := by
  induction rows generalizing config with
  | nil => rfl
  | cons row rows ih =>
    rw [List.foldl_cons, ih]
    by_cases h : row.isSettings = true
    · have hother : ¬ row.isField = true := by
        rw [TagRow.isField, h]
        exact Bool.false_ne_true
      rw [addRow_of_isSettings h, List.filter_cons_of_pos h, List.filter_cons_of_neg hother,
        List.foldl_cons]
    · have hfield : row.isField = true := by
        rw [TagRow.isField, Bool.eq_false_iff.mpr h]
        rfl
      rw [addRow_of_isField hfield, List.filter_cons_of_neg h, List.filter_cons_of_pos hfield,
        List.foldl_cons]

/-- Rows of one kind may change places with rows of the other. -/
theorem assemble_congr (model : String) {rows other : List TagRow}
    (hsettings : other.filter TagRow.isSettings = rows.filter TagRow.isSettings)
    (hfields : other.filter TagRow.isField = rows.filter TagRow.isField) :
    assemble model other = assemble model rows := by
  rw [assemble, assemble, foldl_addRow, foldl_addRow, hsettings, hfields]

end ModelConfig

/-! ## Settings -/

/-- The value of an attribute in the last row that sets it. -/
def TagRow.lastSet {α : Type} (value : ModelSettings → Option α) (rows : List TagRow) : Option α :=
  (rows.filterMap fun row ↦ value row.asSettings).getLast?

theorem TagRow.lastSet_concat {α : Type} (value : ModelSettings → Option α) (rows : List TagRow)
    (row : TagRow) : lastSet value (rows ++ [row]) = (value row.asSettings).or (lastSet value rows) := by
  have hlast : ([row].filterMap fun row ↦ value row.asSettings).getLast? = value row.asSettings := by
    rw [List.filterMap_cons]
    cases value row.asSettings <;> rfl
  rw [lastSet, List.filterMap_append, List.getLast?_append, hlast]
  rfl

namespace ModelSettings

def model? (settings : ModelSettings) : Option String :=
  if settings.model = "" then none else some settings.model

theorem overlay_eq (base next : ModelSettings) :
    base.overlay next =
      { model := next.model?.getD base.model
        actions := next.actions.or base.actions
        actionWidth := next.actionWidth.or base.actionWidth
        action := fun setting ↦ (next.action setting).or (base.action setting)
        searchDefaultCount := next.searchDefaultCount.or base.searchDefaultCount } := by
  have hmodel : (if next.model = "" then base.model else next.model) =
      next.model?.getD base.model := by
    unfold model?
    split <;> rfl
  simp only [overlay, hmodel, Option.orElse_eq_orElse, Option.orElse_eq_or]

/-- Rows that are laid over settings leave in each attribute the last value that one of them sets. -/
theorem foldl_addRow (rows : List TagRow) (base : ModelSettings) :
    rows.foldl addRow base =
      { model := (TagRow.lastSet model? rows).getD base.model
        actions := (TagRow.lastSet actions rows).or base.actions
        actionWidth := (TagRow.lastSet actionWidth rows).or base.actionWidth
        action := fun setting ↦ (TagRow.lastSet (·.action setting) rows).or (base.action setting)
        searchDefaultCount :=
          (TagRow.lastSet searchDefaultCount rows).or base.searchDefaultCount } := by
  induction rows using List.reverseRecOn with
  | nil => rfl
  | append_singleton rows row ih =>
    rw [List.foldl_append, ih, List.foldl_cons, List.foldl_nil, addRow, overlay_eq]
    simp only [TagRow.lastSet_concat, Option.or_assoc]
    cases row.asSettings.model? <;> rfl

theorem orNumber_eq (value : Option TagValue) (n : Nat) :
    orNumber value n =
      if value.any TagValue.isTruthy then value else some (.number (.ofNat n)) := by
  cases value <;> rfl

end ModelSettings

namespace ModelConfig

/-- Each attribute of the model has the value of the last row of settings that sets it; without one
the model keeps its name and nothing else is set, but for numbers that take the place of a missing
or false width and count. Rows of settings and rows of fields may change places. -/
theorem settings_last_set (model : String) (rows : List TagRow) :
    (let settingsRows := rows.filter TagRow.isSettings;
      (assemble model rows).settings =
        { model := (TagRow.lastSet ModelSettings.model? settingsRows).getD model
          actions := TagRow.lastSet ModelSettings.actions settingsRows
          actionWidth :=
            if (TagRow.lastSet ModelSettings.actionWidth settingsRows).any TagValue.isTruthy then
              TagRow.lastSet ModelSettings.actionWidth settingsRows
            else some (.number (.ofNat 150))
          action := fun setting ↦ TagRow.lastSet (·.action setting) settingsRows
          searchDefaultCount :=
            if (TagRow.lastSet ModelSettings.searchDefaultCount settingsRows).any
                TagValue.isTruthy then
              TagRow.lastSet ModelSettings.searchDefaultCount settingsRows
            else some (.number (.ofNat 3)) }) ∧
      ∀ other : List TagRow, other.filter TagRow.isSettings = rows.filter TagRow.isSettings →
        other.filter TagRow.isField = rows.filter TagRow.isField →
        assemble model other = assemble model rows := by
  constructor
  · dsimp only
    rw [assemble, foldl_addRow, ModelSettings.foldl_addRow, ModelSettings.withDefaults,
      ModelSettings.orNumber_eq, ModelSettings.orNumber_eq]
    simp only [start, ModelSettings.empty, Option.or_none]
  · intro other hsettings hfields
    exact assemble_congr model hsettings hfields

/-- Rows of a model in which the second row of settings sets a width that counts as false. -/
def narrowedUsers : List TagRow :=
  [⟨TagRow.settingsField, "actions:view;action-width:120"⟩, ⟨"Name", "label:Full name"⟩,
    ⟨TagRow.settingsField, "action-width:0;action-label:view=Show"⟩]

/-- The width that counts as false gives way to the default and not to the earlier width, and the row
of the field may as well stand behind both rows of settings. -/
theorem settings_narrowedUsers :
    (assemble "User" narrowedUsers).settings.actionWidth = some (.number (.ofNat 150)) ∧
      assemble "User" [⟨TagRow.settingsField, "actions:view;action-width:120"⟩,
        ⟨TagRow.settingsField, "action-width:0;action-label:view=Show"⟩,
        ⟨"Name", "label:Full name"⟩] = assemble "User" narrowedUsers := by
  obtain ⟨hsettings, hmoved⟩ := settings_last_set "User" narrowedUsers
  constructor
  · rw [hsettings]
    decide +kernel
  · exact hmoved _ (by decide +kernel) (by decide +kernel)

end ModelConfig

/-! ## Fields -/

namespace TagRow

def named (name : String) (rows : List TagRow) : List TagRow :=
  rows.filter (·.field = name)

/-- The configuration that the last row of a field gives it; none if this row hides the field. -/
def fieldOfLast? (name : String) (rows : List TagRow) : Option FieldConfig :=
  ((named name rows).getLast?.filter shows).map asField

end TagRow

namespace ModelConfig

/-- The rows that do not hide their fields are inserted one after the other. -/
theorem foldl_addField (rows : List TagRow) (fields : OrderedMap FieldConfig) :
    rows.foldl addField fields =
      fields.insertAll ((rows.filter TagRow.shows).map fun row ↦ (row.field, row.asField)) := by
  induction rows generalizing fields with
  | nil => rfl
  | cons row rows ih =>
    rw [List.foldl_cons, ih, addField]
    by_cases h : row.shows = true
    · rw [if_pos h, List.filter_cons_of_pos h]
      rfl
    · rw [if_neg h, List.filter_cons_of_neg h]

/-- A field has the configuration of its last row that does not hide it. -/
theorem find?_fields_assemble (model : String) (rows : List TagRow) (name : String) :
    (assemble model rows).fields.find? name =
      (((rows.filter TagRow.isField).filter TagRow.shows).filter (·.field = name)).getLast?.map
        TagRow.asField := by
  have hfields : (assemble model rows).fields = .ofList
      (((rows.filter TagRow.isField).filter TagRow.shows).map
        fun row ↦ (row.field, row.asField)) := by
    rw [assemble, foldl_addRow]
    exact foldl_addField _ _
  rw [hfields, OrderedMap.find?_ofList, List.filter_map, List.getLast?_map, Option.map_map]
  rfl

theorem find?_fields_settingsField (model : String) (rows : List TagRow) :
    (assemble model rows).fields.find? TagRow.settingsField = none := by
  have hnone : ((rows.filter TagRow.isField).filter TagRow.shows).filter
      (·.field = TagRow.settingsField) = [] := by
    rw [List.filter_eq_nil_iff]
    intro row hrow hname
    have hfield := (List.mem_filter.mp (List.mem_filter.mp hrow).1).2
    rw [TagRow.isField, TagRow.isSettings, beq_iff_eq.mpr (of_decide_eq_true hname)] at hfield
    exact Bool.false_ne_true hfield
  rw [find?_fields_assemble, hnone]
  rfl

theorem find?_fields_of_ne (model : String) (rows : List TagRow) {name : String}
    (hname : name ≠ TagRow.settingsField) :
    (assemble model rows).fields.find? name =
      ((TagRow.named name rows).filter TagRow.shows).getLast?.map TagRow.asField := by
  have hrows : ((rows.filter TagRow.isField).filter TagRow.shows).filter (·.field = name) =
      (TagRow.named name rows).filter TagRow.shows := by
    rw [TagRow.named, List.filter_filter, List.filter_filter, List.filter_filter]
    apply List.filter_congr
    intro row _
    by_cases hfield : row.field = name
    · rw [TagRow.isField_of_ne (hfield ▸ hname), Bool.and_true, Bool.and_comm]
    · rw [decide_eq_false hfield, Bool.false_and, Bool.false_and, Bool.and_false]
  rw [find?_fields_assemble, hrows]

end ModelConfig

/-- What is left out of a list before its last item is taken makes no difference to leaving out the
last item itself exactly if the last item is kept or everything is left out. -/
theorem map_getLast?_filter_eq_iff {α β : Type} (keep : α → Bool) (f : α → β) (xs : List α) :
    (xs.filter keep).getLast?.map f = (xs.getLast?.filter keep).map f ↔
      ∀ last ∈ xs.getLast?, keep last = false → ∀ x ∈ xs, keep x = false := by
  rcases List.eq_nil_or_concat xs with rfl | ⟨front, last, rfl⟩
  · simp
  · rw [List.concat_eq_append, List.filter_append, List.getLast?_concat, Option.filter_some]
    cases hkeep : keep last with
    | true =>
      have hlast : [last].filter keep = [last] := List.filter_cons_of_pos hkeep
      rw [hlast, List.getLast?_concat, if_pos rfl]
      refine iff_of_true rfl fun x hx hfalse ↦ ?_
      cases hx
      cases hkeep.symm.trans hfalse
    | false =>
      have hlast : [last].filter keep = [] :=
        List.filter_cons_of_neg (Bool.eq_false_iff.mp hkeep)
      rw [hlast, List.append_nil, if_neg Bool.false_ne_true, Option.map_none,
        Option.map_eq_none_iff, List.getLast?_eq_none_iff, List.filter_eq_nil_iff]
      constructor
      · intro hfront y hy hfalse x hx
        rcases List.mem_append.mp hx with hx | hx
        · exact Bool.eq_false_iff.mpr (hfront x hx)
        · rw [List.mem_singleton.mp hx]
          exact hkeep
      · intro hall x hx
        exact Bool.eq_false_iff.mp (hall last rfl hkeep x (List.mem_append_left _ hx))

namespace ModelConfig

/-- The reserved name is no field. Any other field has the configuration of its last row that does
not hide it. This is what its last row alone says exactly if this row does not hide the field, or
all rows of the field do. -/
theorem fields_last_shown (model : String) (rows : List TagRow) :
    (assemble model rows).fields.find? TagRow.settingsField = none ∧
      ∀ name, name ≠ TagRow.settingsField →
        (assemble model rows).fields.find? name =
            ((TagRow.named name rows).filter TagRow.shows).getLast?.map TagRow.asField ∧
          ((assemble model rows).fields.find? name = TagRow.fieldOfLast? name rows ↔
            ∀ last ∈ (TagRow.named name rows).getLast?, last.shows = false →
              ∀ row ∈ TagRow.named name rows, row.shows = false) := by
  refine ⟨find?_fields_settingsField model rows, ?_⟩
  intro name hname
  have hfind := find?_fields_of_ne model rows hname
  refine ⟨hfind, ?_⟩
  rw [hfind, TagRow.fieldOfLast?]
  exact map_getLast?_filter_eq_iff _ _ _

/-- Rows of two fields, of which the second field is hidden at first and the other one at last. -/
def twiceDeclared : List TagRow :=
  [⟨"Secret", "label:Secret"⟩, ⟨"Name", "hidden"⟩, ⟨"Name", "label:Name"⟩, ⟨"Secret", "hidden:1"⟩]

/-- The field that is hidden at first has the configuration of its last row. -/
theorem fields_last_shown_name : (assemble "User" twiceDeclared).fields.find? "Name" =
    TagRow.fieldOfLast? "Name" twiceDeclared := by
  have hname : "Name" ≠ TagRow.settingsField := by decide
  refine ((fields_last_shown "User" twiceDeclared).2 "Name" hname).2.mpr ?_
  decide +kernel

/-- The last row of a field does not decide: the field that is hidden at last is still there. -/
theorem hidden_last_row_may_not_decide :
    ¬ ∀ (model : String) (rows : List TagRow) (name : String), name ≠ TagRow.settingsField →
      (assemble model rows).fields.find? name = TagRow.fieldOfLast? name rows := by
  intro h
  have hfield := congrArg Option.isSome (h "User" twiceDeclared "Secret" (by decide))
  have hthere : ((assemble "User" twiceDeclared).fields.find? "Secret").isSome = true := by
    decide +kernel
  have hhidden : (TagRow.fieldOfLast? "Secret" twiceDeclared).isSome = false := by
    decide +kernel
  rw [hthere, hhidden] at hfield
  exact Bool.false_ne_true hfield.symm

end ModelConfig

end FieldTags
