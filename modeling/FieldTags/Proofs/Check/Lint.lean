import FieldTags.Check.Lint
import FieldTags.Config.Assembly
import FieldTags.Proofs.OrderedMap
import Mathlib.Data.List.Basic

/-!
# What lint rules find

The rule about permissions of buttons finds those that no user can ever see. The rule about labels
finds the fields that are shown without a label and those with a blank one. What it says of the
former is true. A blank label is a caption, though, and it is shown instead of the name.
-/

namespace FieldTags

/-! ## Buttons that nobody sees -/

namespace ButtonId

variable {b : ButtonId} {config : ModelConfig}

/-- No permissions whatsoever allow the button. -/
def IsDenied (b : ButtonId) (config : ModelConfig) : Prop :=
  ∀ permissions,
    b.isAuthorized permissions config.model (config.settings.action .permission) = false

/-- If something is enough for a button, then the permission that it needs, alone. -/
theorem isDenied_iff_requiredPermission : b.IsDenied config ↔
    b.requiredPermission config.model (config.settings.action .permission) = none := by
  unfold IsDenied isAuthorized
  constructor
  · intro h
    cases hneeded : b.requiredPermission config.model (config.settings.action .permission) with
    | none => rfl
    | some permission =>
      have hdenied := h ⟨[permission]⟩
      simp [hneeded, PermissionSet.contains] at hdenied
  · intro hneeded permissions
    rw [hneeded]

/-- Nobody is allowed a custom button that is not mapped to a permission, and no other button is
denied to everyone. -/
theorem isDenied_iff : b.IsDenied config ↔
    (b.isCustom && !(config.settings.action .permission).any (·.contains b.bareName)) = true := by
  rw [isDenied_iff_requiredPermission, requiredPermission]
  cases config.settings.action .permission with
  | none => cases b.isCustom <;> simp
  | some mapped =>
    rw [Option.bind_some, Option.any_some, ← OrderedMap.isSome_find?]
    cases mapped.find? b.bareName with
    | none => cases b.isCustom <;> simp
    | some permission => simp

instance : Decidable (b.IsDenied config) :=
  decidable_of_iff _ isDenied_iff.symm

theorem not_isDenied_iff : ¬ b.IsDenied config ↔ ∃ permissions,
    b.isAuthorized permissions config.model (config.settings.action .permission) = true := by
  simp only [IsDenied, not_forall, Bool.not_eq_false]

end ButtonId

namespace ModelConfig

/-- The finding that no user sees a button. -/
def hiddenButton (config : ModelConfig) (severity : LintSeverity) (b : ButtonId) : LintFinding :=
  ⟨"custom-button-permission", severity, config.model, none,
    "Button \"" ++ b.text ++ "\" has no action-permission entry and is hidden from every user"⟩

/-- The finding says which button it is about. -/
theorem hiddenButton_injective (config : ModelConfig) (severity : LintSeverity) :
    Function.Injective (config.hiddenButton severity) := by
  intro b other h
  have hmessage := congrArg LintFinding.message h
  rw [hiddenButton, hiddenButton, String.append_left_inj, String.append_right_inj] at hmessage
  exact congrArg ButtonId.mk hmessage

/-- The rule about permissions finds the declared buttons that no permissions allow, in their order
and with repetitions. Every other declared button is allowed by some permissions. -/
theorem buttonPermission_finds_denied (config : ModelConfig) (severity : LintSeverity) :
    config.lintFindings .buttonPermission severity =
        (config.buttons.filter fun b ↦ b.IsDenied config).map (config.hiddenButton severity) ∧
      ∀ b ∈ config.buttons,
        config.hiddenButton severity b ∉ config.lintFindings .buttonPermission severity ↔
          ∃ permissions, b.isAuthorized permissions config.model
            (config.settings.action .permission) = true := by
  have hfindings : config.lintFindings .buttonPermission severity =
      (config.buttons.filter fun b ↦ b.IsDenied config).map (config.hiddenButton severity) := by
    rw [lintFindings, lintProblems, List.map_map]
    apply congrArg
    apply List.filter_congr
    intro b _
    rw [Bool.eq_iff_iff, ← ButtonId.isDenied_iff, decide_eq_true_iff]
  refine ⟨hfindings, ?_⟩
  intro b hb
  rw [hfindings, List.mem_map_of_injective (config.hiddenButton_injective severity),
    List.mem_filter, and_iff_right hb, decide_eq_true_iff, ButtonId.not_isDenied_iff]

/-- The members of a staff, with a button that is mapped to a permission and one that is not. -/
def auditedStaff : ModelConfig :=
  .assemble "Staff" [⟨TagRow.settingsField,
    "actions:view,custom:audit,custom:export;action-permission:audit=staff:audit"⟩]

/-- Of three buttons one is found, and the others are allowed by some permissions. -/
theorem buttonPermission_auditedStaff :
    (auditedStaff.lintFindings .buttonPermission .warning).map LintFinding.message =
        ["Button \"custom:export\" has no action-permission entry and is hidden from every user"] ∧
      ∃ permissions, ButtonId.isAuthorized ⟨"custom:audit"⟩ permissions auditedStaff.model
        (auditedStaff.settings.action .permission) = true := by
  obtain ⟨hfindings, hallowed⟩ := buttonPermission_finds_denied auditedStaff .warning
  constructor
  · rw [hfindings]
    decide +kernel
  · exact (hallowed ⟨"custom:audit"⟩ (by decide +kernel)).mp (by decide +kernel)

end ModelConfig

/-! ## Captions -/

namespace FieldConfig

/-- Whether the field is shown in the table or in a form that is not for searching. -/
def isListed (config : FieldConfig) : Bool :=
  [FormMode.table, .add, .edit, .detail].any config.isVisible

/-- Without a label the name is the caption. A label is the caption even if it is blank. -/
theorem caption_of_isUnlabeled {config : FieldConfig} (h : ModelConfig.isUnlabeled config = true)
    (name : String) :
    config .label = none ∧ config.caption name = name ∨
      ∃ label, config .label = some label ∧ Text.allBlank label = true ∧
        config.caption name = label := by
  rw [ModelConfig.isUnlabeled] at h
  rw [caption]
  cases hlabel : config .label with
  | none => exact .inl ⟨rfl, rfl⟩
  | some label =>
    rw [hlabel] at h
    exact .inr ⟨label, rfl, h, rfl⟩

theorem caption_of_not_isUnlabeled {config : FieldConfig}
    (h : ModelConfig.isUnlabeled config = false) (name : String) :
    Text.allBlank (config.caption name) = false := by
  rw [ModelConfig.isUnlabeled] at h
  rw [caption]
  cases hlabel : config .label with
  | none =>
    rw [hlabel] at h
    cases h
  | some label =>
    rw [hlabel] at h
    exact h

end FieldConfig

namespace ModelConfig

variable {config : ModelConfig} {severity : LintSeverity} {name : String} {field : FieldConfig}

/-- The finding that a field is shown by its name. -/
def unlabeledField (config : ModelConfig) (severity : LintSeverity) (name : String) : LintFinding :=
  ⟨"missing-label", severity, config.model, some name,
    "Field \"" ++ name ++ "\" has no label; its name is shown instead"⟩

theorem mem_lintFindings_missingLabel {finding : LintFinding} :
    finding ∈ config.lintFindings .missingLabel severity ↔
      ∃ name field, (name, field) ∈ config.fields.entries ∧ isUnlabeled field = true ∧
        field.isListed = true ∧ config.unlabeledField severity name = finding := by
  have hfindings : config.lintFindings .missingLabel severity =
      (config.fields.entries.filter fun entry ↦
        isUnlabeled entry.2 && entry.2.isListed).map fun entry ↦
          config.unlabeledField severity entry.1 := by
    rw [lintFindings, lintProblems, List.map_map]
    rfl
  simp only [hfindings, List.mem_map, List.mem_filter, Bool.and_eq_true, Prod.exists, and_assoc]

/-- Among the fields of a model a finding is about the one with the name that it gives. -/
theorem unlabeledField_mem_iff (hfield : (name, field) ∈ config.fields.entries) :
    config.unlabeledField severity name ∈ config.lintFindings .missingLabel severity ↔
      isUnlabeled field = true ∧ field.isListed = true := by
  rw [mem_lintFindings_missingLabel]
  constructor
  · rintro ⟨other, otherField, hother, hunlabeled, hlisted, hfinding⟩
    have hname : other = name := Option.some.inj (congrArg LintFinding.field hfinding)
    subst hname
    have hsome := OrderedMap.find?_eq_some_iff.mpr hother
    rw [OrderedMap.find?_eq_some_iff.mpr hfield] at hsome
    cases hsome
    exact ⟨hunlabeled, hlisted⟩
  · rintro ⟨hunlabeled, hlisted⟩
    exact ⟨name, field, hfield, hunlabeled, hlisted, rfl⟩

/-- The rule about labels finds fields that are shown. If such a field has no label its name is the
caption, as the finding says. Otherwise it has a blank label, and this is the caption. A field that
is shown and not found has a caption that is not blank. -/
theorem missingLabel_tells_caption_unless_blank (config : ModelConfig) (severity : LintSeverity) :
    (∀ finding ∈ config.lintFindings .missingLabel severity,
      ∃ name field, (name, field) ∈ config.fields.entries ∧ field.isListed = true ∧
        finding = config.unlabeledField severity name ∧
        (field .label = none ∧ field.caption name = name ∨
          ∃ label, field .label = some label ∧ Text.allBlank label = true ∧
            field.caption name = label)) ∧
      ∀ name field, (name, field) ∈ config.fields.entries → field.isListed = true →
        config.unlabeledField severity name ∉ config.lintFindings .missingLabel severity →
        Text.allBlank (field.caption name) = false := by
  constructor
  · intro finding hfinding
    obtain ⟨name, field, hfield, hunlabeled, hlisted, rfl⟩ :=
      mem_lintFindings_missingLabel.mp hfinding
    exact ⟨name, field, hfield, hlisted, rfl, field.caption_of_isUnlabeled hunlabeled name⟩
  · intro name field hfield hlisted hnot
    rw [unlabeledField_mem_iff hfield, and_iff_left hlisted, Bool.not_eq_true] at hnot
    exact field.caption_of_not_isUnlabeled hnot name

/-- Users with a field that has no label and one that has. -/
def labeledUsers : ModelConfig :=
  .assemble "User" [⟨"Email", "required"⟩, ⟨"Name", "label:Full name"⟩]

/-- The field without a label is found, and the other one is not and has a caption. -/
theorem missingLabel_labeledUsers :
    (labeledUsers.lintFindings .missingLabel .warning).map LintFinding.field = [some "Email"] ∧
      Text.allBlank (FieldConfig.caption (.ofTag (Tag.read "label:Full name")) "Name") = false := by
  obtain ⟨-, hcaption⟩ := missingLabel_tells_caption_unless_blank labeledUsers .warning
  refine ⟨by decide +kernel, ?_⟩
  have hfield : ("Name", FieldConfig.ofTag (Tag.read "label:Full name")) ∈
      labeledUsers.fields.entries :=
    OrderedMap.find?_eq_some_iff.mp rfl
  exact hcaption _ _ hfield (by decide +kernel) (by decide +kernel)

/-- A field with a blank label is reported to be shown by its name and is not. -/
theorem blank_label_is_caption :
    ¬ ∀ (config : ModelConfig) (severity : LintSeverity) (name : String) (field : FieldConfig),
      (name, field) ∈ config.fields.entries →
      config.unlabeledField severity name ∈ config.lintFindings .missingLabel severity →
      field.caption name = name := by
  intro h
  have hfield : ("Email", FieldConfig.ofTag (Tag.read "label:")) ∈
      (assemble "User" [⟨"Email", "label:"⟩]).fields.entries :=
    OrderedMap.find?_eq_some_iff.mp rfl
  have hcaption := h _ .warning _ _ hfield (by decide +kernel)
  exact absurd hcaption (by decide +kernel)

end ModelConfig

end FieldTags
