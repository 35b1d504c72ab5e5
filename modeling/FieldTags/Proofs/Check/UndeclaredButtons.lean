import FieldTags.Button.Visibility
import FieldTags.Proofs.Check.Problems
import FieldTags.Proofs.Text.Splitting
import Mathlib.Data.List.Basic

/-!
# Settings of buttons that are not declared

A setting is looked up by the names of the declared buttons and by nothing else. Validation reports
exactly the entries that are under other names: without them every user sees the same buttons on
every row, and every entry that is not reported is what a declared button finds.
-/

namespace FieldTags

/-! ## What is reported -/

namespace ActionAttribute

theorem key_injective {a b : ActionAttribute} (h : a.key = b.key) : a = b := by
  cases a <;> cases b <;> first | rfl | simp [key] at h

/-- No key of a setting has a blank in it. -/
theorem blank_not_mem_key (setting : ActionAttribute) : ' ' ∉ setting.key.toList := by
  cases setting <;> decide

end ActionAttribute

/-- Words without a blank and what follows a blank behind them can be told from the whole text. -/
theorem Text.eq_of_append_blank {word other mark text text' tail : String}
    (hmark : ∃ rest, mark.toList = ' ' :: rest) (hword : ' ' ∉ word.toList)
    (hother : ' ' ∉ other.toList)
    (h : word ++ mark ++ text ++ tail = other ++ mark ++ text' ++ tail) :
    word = other ∧ text = text' := by
  obtain ⟨rest, hmark⟩ := hmark
  have hchars := congrArg String.toList h
  simp only [String.toList_append, List.append_assoc, hmark, List.cons_append] at hchars
  have hsplit := congrArg (Text.splitFirst? ' ') hchars
  rw [Text.splitFirst?_append hword, Text.splitFirst?_append hother] at hsplit
  simp only [Option.some.injEq, Prod.mk.injEq, List.append_cancel_left_eq,
    List.append_cancel_right_eq, String.toList_inj] at hsplit
  exact hsplit

/-- The text about an entry says which setting has it and what its key is. -/
theorem Problem.eq_of_finding_undeclaredButton {p : Problem} {model key : String}
    {setting : ActionAttribute}
    (h : p.finding model = (undeclaredButton setting key).finding model) :
    p = undeclaredButton setting key := by
  have hcode : p.code = "UIT-E001" := congrArg Finding.code h
  have hmessage : p.message = (undeclaredButton setting key).message := congrArg Finding.message h
  cases p with
  | undeclaredButton other name =>
    obtain ⟨hkey, rfl⟩ := Text.eq_of_append_blank ⟨_, rfl⟩ other.blank_not_mem_key
      setting.blank_not_mem_key hmessage
    rw [ActionAttribute.key_injective hkey]
  | _ => simp [code] at hcode

namespace ModelConfig

variable {config : ModelConfig} {setting : ActionAttribute} {key : String} {b : ButtonId}

/-- The entry of the setting with this key is reported to be for a button that is not declared. -/
def FlagsEntry (config : ModelConfig) (setting : ActionAttribute) (key : String) : Prop :=
  (Problem.undeclaredButton setting key).finding config.model ∈ config.validate.errors

instance : Decidable (config.FlagsEntry setting key) :=
  inferInstanceAs (Decidable (_ ∈ _))

/-- Exactly the entries are reported whose key is the name of no declared button. -/
theorem flagsEntry_iff : config.FlagsEntry setting key ↔
    (∃ value, (key, value) ∈ config.actionEntries setting) ∧
      ∀ b ∈ config.buttons, b.bareName ≠ key := by
  rw [← undeclaredButton_mem_problems_iff, FlagsEntry, mem_errors_validate]
  constructor
  · rintro ⟨p, hp, -, hfinding⟩
    rw [← Problem.eq_of_finding_undeclaredButton hfinding]
    exact hp
  · intro hp
    exact ⟨_, hp, rfl, rfl⟩

/-- An entry with this key is reported, of whatever setting it is. -/
def FlagsKey (config : ModelConfig) (key : String) : Prop :=
  ∃ setting ∈ ActionAttribute.all, config.FlagsEntry setting key

instance : Decidable (config.FlagsKey key) :=
  inferInstanceAs (Decidable (∃ _ ∈ _, _))

/-- The name of a declared button is not reported. -/
theorem not_flagsKey_bareName (hb : b ∈ config.buttons) : ¬ config.FlagsKey b.bareName := by
  rintro ⟨setting, -, hflags⟩
  exact (flagsEntry_iff.mp hflags).2 b hb rfl

/-! ## Without the reported entries -/

/-- The configuration whose settings have no entries with reported keys. -/
def withoutFlagged (config : ModelConfig) : ModelConfig :=
  { config with
    settings :=
      { config.settings with
        action := fun setting ↦ (config.settings.action setting).map fun entries ↦
          entries.filterKeys fun key ↦ ¬ config.FlagsKey key } }

/-- A declared button finds in every setting what it found there before. -/
theorem find?_withoutFlagged (hb : b ∈ config.buttons) (setting : ActionAttribute) :
    (config.withoutFlagged.settings.action setting).bind (·.find? b.bareName) =
      (config.settings.action setting).bind (·.find? b.bareName) := by
  unfold withoutFlagged
  dsimp only
  cases config.settings.action setting with
  | none => rfl
  | some entries =>
    rw [Option.map_some, Option.bind_some, OrderedMap.find?_filterKeys,
      if_pos (decide_eq_true (not_flagsKey_bareName hb)), Option.bind_some]

theorem isAuthorized_withoutFlagged (hb : b ∈ config.buttons) (permissions : PermissionSet) :
    b.isAuthorized permissions config.model (config.withoutFlagged.settings.action .permission) =
      b.isAuthorized permissions config.model (config.settings.action .permission) := by
  simp only [ButtonId.isAuthorized, ButtonId.requiredPermission, find?_withoutFlagged hb]

theorem isShown_withoutFlagged (hb : b ∈ config.buttons) (row : Option Json) :
    b.isShown row (config.withoutFlagged.settings.action .condition) =
      b.isShown row (config.settings.action .condition) := by
  simp only [ButtonId.isShown, ButtonId.condition?, find?_withoutFlagged hb]

theorem ofSettings_withoutFlagged (hb : b ∈ config.buttons) :
    ButtonAction.ofSettings config.withoutFlagged.settings b =
      ButtonAction.ofSettings config.settings b := by
  simp only [ButtonAction.ofSettings, find?_withoutFlagged hb]

/-- Without the reported entries a user sees the same buttons. -/
theorem visibleButtons_withoutFlagged (config : ModelConfig) (permissions : PermissionSet)
    (row : Option Json) :
    config.withoutFlagged.visibleButtons permissions row =
      config.visibleButtons permissions row := by
  have hallowed : (config.withoutFlagged.buttons.filter fun b ↦ b.isAuthorized permissions
        config.withoutFlagged.model (config.withoutFlagged.settings.action .permission)) =
      config.buttons.filter fun b ↦ b.isAuthorized permissions config.model
        (config.settings.action .permission) := by
    apply List.filter_congr (l := config.buttons)
    intro b hb
    exact isAuthorized_withoutFlagged hb permissions
  have hmem {b : ButtonId} (h : b ∈ config.buttons.filter fun b ↦ b.isAuthorized permissions
      config.model (config.settings.action .permission)) : b ∈ config.buttons :=
    (List.mem_filter.mp h).1
  unfold visibleButtons ButtonId.filterAuthorized
  dsimp only
  rw [hallowed, List.filter_congr fun b hb ↦ isShown_withoutFlagged (hmem hb) row]
  apply List.map_congr_left
  intro b hb
  exact ofSettings_withoutFlagged (hmem (List.mem_filter.mp hb).1)

/-- Reported entries are dead: without them all users see the same buttons on all rows, and no
declared button has the name of one. An entry that is not reported is what the declared buttons of
its name find, and there is such a button. -/
theorem flagged_entries_are_dead (config : ModelConfig) :
    (∀ permissions row, config.withoutFlagged.visibleButtons permissions row =
      config.visibleButtons permissions row) ∧
    (∀ setting key, config.FlagsEntry setting key → ∀ b ∈ config.buttons, b.bareName ≠ key) ∧
    ∀ setting key value, (key, value) ∈ config.actionEntries setting →
      ¬ config.FlagsEntry setting key →
      ∃ b ∈ config.buttons, b.bareName = key ∧
        (config.settings.action setting).bind (·.find? b.bareName) = some value := by
  refine ⟨visibleButtons_withoutFlagged config, ?_, ?_⟩
  · intro setting key hflags
    exact (flagsEntry_iff.mp hflags).2
  · intro setting key value hentry hflags
    have hdeclared : ¬ ∀ b ∈ config.buttons, b.bareName ≠ key := by
      intro hnone
      exact hflags (flagsEntry_iff.mpr ⟨⟨value, hentry⟩, hnone⟩)
    simp only [not_forall, not_not] at hdeclared
    obtain ⟨b, hb, hname⟩ := hdeclared
    refine ⟨b, hb, hname, ?_⟩
    rw [hname]
    exact mem_actionEntries.mp hentry

/-- A model that declares a custom button and sets captions for it and for one that it does not
declare. -/
def exportedUsers : ModelConfig :=
  .assemble "SysUser" [⟨TagRow.settingsField,
    "actions:view,custom:Audit;action-label:Audit=Check;;Export=Save"⟩]

theorem actionEntries_exportedUsers :
    exportedUsers.actionEntries .label = [("Audit", "Check"), ("Export", "Save")] := by
  decide +kernel

theorem flagsEntry_exportedUsers : exportedUsers.FlagsEntry .label "Export" ∧
    ¬ exportedUsers.FlagsEntry .label "Audit" := by
  decide +kernel

/-- The caption for the export is reported and dead, and the other one is found. -/
theorem dead_entry_exportedUsers : exportedUsers.FlagsEntry .label "Export" ∧
    (∀ b ∈ exportedUsers.buttons, b.bareName ≠ "Export") ∧
    ∃ b ∈ exportedUsers.buttons, b.bareName = "Audit" ∧
      (exportedUsers.settings.action .label).bind (·.find? b.bareName) = some "Check" := by
  obtain ⟨-, hdead, hfound⟩ := flagged_entries_are_dead exportedUsers
  obtain ⟨hexport, haudit⟩ := flagsEntry_exportedUsers
  refine ⟨hexport, hdead .label "Export" hexport, hfound .label "Audit" "Check" ?_ haudit⟩
  simp [actionEntries_exportedUsers]

end ModelConfig

end FieldTags
