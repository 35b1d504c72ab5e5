import FieldTags.Check.Validation
import Mathlib.Tactic.Common

/-!
# Where problems come from

The problems of a configuration are those of the entries for its buttons, of its buttons, of their
conditions and methods, and of its fields. What a problem carries says which of these it is of.
-/

namespace FieldTags

section Problems

variable {config : ModelConfig} {button condition name key : String} {setting : ActionAttribute}
  {field : FieldConfig} {p : Problem}

namespace ModelConfig

/-- A problem is one of an entry, a button, a condition, a method or a field. -/
theorem mem_problems_iff : p ∈ config.problems ↔
    p ∈ config.undeclaredButtons ∨ p ∈ config.unknownButtons ∨
      (∃ button condition, (button, condition) ∈ config.actionEntries .condition ∧
        p ∈ conditionProblems button condition) ∨
      p ∈ config.unknownMethods ∨
      ∃ name field, (name, field) ∈ config.fields.entries ∧ p ∈ field.problems name := by
  simp only [problems, List.mem_append, List.mem_flatMap, Prod.exists, or_assoc]

/-- An entry is a problem if no declared button has its key for a name. -/
theorem mem_undeclaredButtons_iff : p ∈ config.undeclaredButtons ↔
    ∃ setting key value, p = .undeclaredButton setting key ∧
      (key, value) ∈ config.actionEntries setting ∧ ∀ b ∈ config.buttons, b.bareName ≠ key := by
  have hall (setting : ActionAttribute) : setting ∈ ActionAttribute.all := by
    cases setting <;> decide
  have hkeys (setting : ActionAttribute) (key : String) :
      key ∈ ((config.settings.action setting).map OrderedMap.keys).getD [] ↔
        ∃ value, (key, value) ∈ config.actionEntries setting := by
    unfold actionEntries
    cases config.settings.action setting <;> simp [OrderedMap.keys]
  simp only [undeclaredButtons, List.mem_flatMap, hall, true_and, List.mem_map, List.mem_filter,
    hkeys, Bool.not_eq_true', List.contains_eq_mem, decide_eq_false_iff_not, not_exists, not_and]
  constructor
  · rintro ⟨setting, key, ⟨⟨value, hentry⟩, hdeclared⟩, rfl⟩
    exact ⟨setting, key, value, rfl, hentry, hdeclared⟩
  · rintro ⟨setting, key, value, rfl, hentry, hdeclared⟩
    exact ⟨setting, key, ⟨⟨value, hentry⟩, hdeclared⟩, rfl⟩

/-- The problems of a condition are known by its button. -/
theorem eq_of_mem_conditionProblems (h : p ∈ conditionProblems button condition) :
    (∃ error, p = .brokenCondition button error) ∨ ∃ names, p = .foreignNames button names := by
  unfold conditionProblems at h
  split at h
  next error _ => exact .inl ⟨error, List.mem_singleton.mp h⟩
  next e _ => exact .inr ⟨_, List.mem_singleton.mp (List.mem_ite_nil_left.mp h).2⟩

end ModelConfig

namespace FieldConfig

/-- The problems of templates are the errors of the texts of a field. -/
theorem mem_templateProblems_iff : p ∈ field.templateProblems name ↔
    ∃ place s error, (place, s) ∈ field.templateTexts ∧ templateError? s = some error ∧
      p = .brokenTemplate name place error := by
  simp only [templateProblems, List.mem_filterMap, Option.map_eq_some_iff, Prod.exists]
  constructor
  · rintro ⟨place, s, htext, error, herror, rfl⟩
    exact ⟨place, s, error, htext, herror, rfl⟩
  · rintro ⟨place, s, error, htext, herror, rfl⟩
    exact ⟨place, s, htext, error, herror, rfl⟩

/-- The problems of words are of four kinds. -/
theorem eq_of_mem_vocabularyProblems (h : p ∈ field.vocabularyProblems name) :
    (∃ kind, p = .unknownFormatter name kind) ∨ (∃ mode, p = .unknownMode name mode) ∨
      (∃ op, p = .unknownOperator name op) ∨ p = .multipleWithoutIn name := by
  unfold vocabularyProblems at h
  simp only [List.mem_append, or_assoc] at h
  rcases h with h | h | h | h
  · split at h
    next kind _ _ => exact .inl ⟨kind, List.mem_singleton.mp h⟩
    · cases h
  · split at h
    next mode _ => exact .inr (.inl ⟨mode, List.mem_singleton.mp (List.mem_ite_nil_right.mp h).2⟩)
    · cases h
  · split at h
    next op _ =>
      exact .inr (.inr (.inl ⟨op, List.mem_singleton.mp (List.mem_ite_nil_right.mp h).2⟩))
    · cases h
  · exact .inr (.inr (.inr (List.mem_singleton.mp (List.mem_ite_nil_right.mp h).2)))

/-- The problems of a field name it. -/
theorem field?_of_mem_problems (h : p ∈ field.problems name) : p.field? = some name := by
  rcases List.mem_append.mp h with h | h
  · obtain ⟨place, s, error, -, -, rfl⟩ := mem_templateProblems_iff.mp h
    rfl
  · obtain ⟨kind, rfl⟩ | ⟨mode, rfl⟩ | ⟨op, rfl⟩ | rfl := eq_of_mem_vocabularyProblems h <;> rfl

end FieldConfig

namespace ModelConfig

/-- Only the entries of settings are reported as entries for buttons that are not declared. -/
theorem undeclaredButton_mem_problems_iff :
    .undeclaredButton setting key ∈ config.problems ↔
      (∃ value, (key, value) ∈ config.actionEntries setting) ∧
        ∀ b ∈ config.buttons, b.bareName ≠ key := by
  rw [mem_problems_iff, mem_undeclaredButtons_iff]
  constructor
  · rintro (⟨_, _, value, heq, hentry, hdeclared⟩ | h | ⟨button, condition, -, h⟩ | h |
      ⟨name, field, -, h⟩)
    · cases heq
      exact ⟨⟨value, hentry⟩, hdeclared⟩
    · simp [unknownButtons] at h
    · simpa using eq_of_mem_conditionProblems h
    · simp [unknownMethods] at h
    · cases FieldConfig.field?_of_mem_problems h
  · rintro ⟨⟨value, hentry⟩, hdeclared⟩
    exact .inl ⟨setting, key, value, rfl, hentry, hdeclared⟩

/-- Only the templates of fields are reported as templates that do not compile. -/
theorem mem_problems_and_code_iff : p ∈ config.problems ∧ p.code = "UIT-E003" ↔
    ∃ name field, (name, field) ∈ config.fields.entries ∧ p ∈ field.templateProblems name := by
  rw [mem_problems_iff]
  constructor
  · rintro ⟨h | h | ⟨button, condition, -, h⟩ | h | ⟨name, field, hfield, h⟩, hcode⟩
    · obtain ⟨setting, key, value, rfl, -⟩ := mem_undeclaredButtons_iff.mp h
      simp [Problem.code] at hcode
    · obtain ⟨b, -, rfl⟩ := List.mem_map.mp h
      simp [Problem.code] at hcode
    · obtain ⟨error, rfl⟩ | ⟨names, rfl⟩ := eq_of_mem_conditionProblems h <;>
        simp [Problem.code] at hcode
    · obtain ⟨entry, -, rfl⟩ := List.mem_map.mp h
      simp [Problem.code] at hcode
    · rcases List.mem_append.mp h with h | h
      · exact ⟨name, field, hfield, h⟩
      · obtain ⟨kind, rfl⟩ | ⟨mode, rfl⟩ | ⟨op, rfl⟩ | rfl :=
          FieldConfig.eq_of_mem_vocabularyProblems h <;> simp [Problem.code] at hcode
  · rintro ⟨name, field, hfield, h⟩
    have hproblem : p ∈ field.problems name := List.mem_append_left _ h
    obtain ⟨place, s, error, -, -, rfl⟩ := FieldConfig.mem_templateProblems_iff.mp h
    exact ⟨.inr (.inr (.inr (.inr ⟨name, field, hfield, hproblem⟩))), rfl⟩

end ModelConfig

end Problems

end FieldTags
