import FieldTags.Check.Lint
import FieldTags.Config.Assembly
import FieldTags.Proofs.Text.Lowercase
import Mathlib.Data.Finset.Card
import Mathlib.Data.Finset.Dedup

/-!
# Labels of several fields

Labels are compared in lowercase form and without the blanks around them, and blank ones are left
out. The rule about equal labels goes through the fields once and keeps the first field of each label
that it meets. So it finds, in their order, the fields whose label an earlier field has, and it names
the first of these. Every field with a label that is not blank is either found or the first one with
its label, which gives the number of findings.
-/

namespace FieldTags

/-! ## Compared labels -/

namespace FieldConfig

def isLabeled (field : FieldConfig) : Bool :=
  (field .label).any fun label ↦ !Text.allBlank label

/-- The form in which the label of a field is compared, unless this is empty. -/
def comparedLabel? (field : FieldConfig) : Option String :=
  ((field .label).map fun label ↦ Text.lowercase (Text.trim label)).filter (· ≠ "")

end FieldConfig

/-- Trimming and lowercasing leave nothing of a text exactly if it is blank. -/
theorem Text.lowercase_trim_eq_empty_iff {s : String} :
    lowercase (trim s) = "" ↔ allBlank s = true := by
  rw [allBlank, ← trimChars_eq_nil_iff, lowercase, trim, String.toList_ofList]
  constructor
  · intro h
    by_contra hne
    exact lowercaseAfter_ne_nil hne (String.ofList_injective h)
  · intro h
    rw [h]
    rfl

/-- The labels that are compared are those that are not blank. -/
theorem FieldConfig.isSome_comparedLabel? (field : FieldConfig) :
    field.comparedLabel?.isSome = field.isLabeled := by
  rw [comparedLabel?, isLabeled]
  cases field .label with
  | none => rfl
  | some label =>
    rw [Option.map_some, Option.any_some, Bool.eq_iff_iff, Bool.not_eq_true', ← Bool.not_eq_true,
      ← Text.lowercase_trim_eq_empty_iff, Option.isSome_filter]
    simp

def labelsOf (fields : List (String × FieldConfig)) : List String :=
  fields.filterMap fun entry ↦ entry.2.comparedLabel?

theorem length_labelsOf (fields : List (String × FieldConfig)) :
    (labelsOf fields).length = (fields.filter fun entry ↦ entry.2.isLabeled).length := by
  rw [labelsOf, List.length_filterMap_eq_countP, ← List.countP_eq_length_filter]
  apply List.countP_congr
  intro entry _
  rw [entry.2.isSome_comparedLabel?]

theorem labelsOf_cons (entry : String × FieldConfig) (fields : List (String × FieldConfig)) :
    labelsOf (entry :: fields) = entry.2.comparedLabel?.toList ++ labelsOf fields := by
  rw [labelsOf, List.filterMap_cons]
  cases entry.2.comparedLabel? <;> rfl

theorem labelsOf_concat (fields : List (String × FieldConfig)) (entry : String × FieldConfig) :
    labelsOf (fields ++ [entry]) = labelsOf fields ++ entry.2.comparedLabel?.toList := by
  rw [labelsOf, List.filterMap_append, List.filterMap_cons, List.filterMap_nil]
  cases entry.2.comparedLabel? <;> rfl

/-! ## Repeated labels -/

def firstWith (label : String) (fields : List (String × FieldConfig)) : Option String :=
  (fields.find? fun entry ↦ entry.2.comparedLabel? = some label).map Prod.fst

/-- Of the fields before another one, the first that has its label. -/
def earlierWith (before : List (String × FieldConfig)) (field : FieldConfig) : Option String :=
  field.comparedLabel?.bind fun label ↦ firstWith label before

/-- The fields behind others whose label an earlier field has, each with the first that has it. -/
def repeatsBehind (before : List (String × FieldConfig)) :
    List (String × FieldConfig) → List (String × String)
  | [] => []
  | entry :: rest =>
    ((earlierWith before entry.2).map fun first ↦ (entry.1, first)).toList ++
      repeatsBehind (before ++ [entry]) rest

/-- In a list of fields, one has the label of an earlier one, and no field before that has it. -/
inductive RepeatsLabel : List (String × FieldConfig) → String → String → Prop where
  | intro {label name first : String} {field firstField : FieldConfig}
    {before between after : List (String × FieldConfig)}
    (hbefore : ∀ entry ∈ before, entry.2.comparedLabel? ≠ some label)
    (hfirst : firstField.comparedLabel? = some label) (hfield : field.comparedLabel? = some label) :
    RepeatsLabel (before ++ (first, firstField) :: (between ++ (name, field) :: after)) name first

section

variable {label name first : String} {before rest : List (String × FieldConfig)}

theorem firstWith_concat (label : String) (fields : List (String × FieldConfig))
    (entry : String × FieldConfig) :
    firstWith label (fields ++ [entry]) =
      (firstWith label fields).or
        (if entry.2.comparedLabel? = some label then some entry.1 else none) := by
  rw [firstWith, List.find?_append, Option.map_or, firstWith, List.find?_singleton]
  simp only [decide_eq_true_eq, apply_ite (Option.map Prod.fst), Option.map_some, Option.map_none]

/-- A field with a label counts for this label only, and only if no field before has it. -/
theorem firstWith_concat_of_label {entry : String × FieldConfig}
    (hlabel : entry.2.comparedLabel? = some label) (other : String)
    (fields : List (String × FieldConfig)) :
    firstWith other (fields ++ [entry]) =
      if other = label then (firstWith label fields).or (some entry.1)
      else firstWith other fields := by
  rw [firstWith_concat, hlabel]
  by_cases hother : other = label
  · rw [hother, if_pos rfl, if_pos rfl]
  · rw [if_neg fun heq ↦ hother (Option.some.inj heq).symm, if_neg hother, Option.or_none]

theorem isSome_firstWith_iff :
    (firstWith label before).isSome = true ↔ label ∈ labelsOf before := by
  rw [firstWith, Option.isSome_map, List.find?_isSome, labelsOf, List.mem_filterMap]
  simp only [decide_eq_true_eq]

theorem firstWith_eq_some_iff :
    firstWith label before = some first ↔
      ∃ front field back, before = front ++ (first, field) :: back ∧
        field.comparedLabel? = some label ∧
          ∀ entry ∈ front, entry.2.comparedLabel? ≠ some label := by
  rw [firstWith, Option.map_eq_some_iff]
  simp only [List.find?_eq_some_iff_append, decide_eq_true_eq, Bool.not_eq_true',
    decide_eq_false_iff_not]
  constructor
  · rintro ⟨⟨_, field⟩, ⟨hlabel, front, back, hfields, hfront⟩, rfl⟩
    exact ⟨front, field, back, hfields, hlabel, hfront⟩
  · rintro ⟨front, field, back, hfields, hlabel, hfront⟩
    exact ⟨(first, field), ⟨hlabel, front, back, hfields, hfront⟩, rfl⟩

/-- The fields are found in their order. -/
theorem repeatsBehind_sublist (before rest : List (String × FieldConfig)) :
    ((repeatsBehind before rest).map Prod.fst).Sublist (rest.map Prod.fst) := by
  induction rest generalizing before with
  | nil => exact List.Sublist.refl []
  | cons entry rest ih =>
    have htail := ih (before ++ [entry])
    rw [repeatsBehind, List.map_append, List.map_cons]
    cases earlierWith before entry.2 with
    | none => exact htail.cons entry.1
    | some first => exact htail.cons_cons entry.1

theorem mem_repeatsBehind :
    (name, first) ∈ repeatsBehind before rest ↔
      ∃ front field back, rest = front ++ (name, field) :: back ∧
        earlierWith (before ++ front) field = some first := by
  induction rest generalizing before with
  | nil => simp [repeatsBehind]
  | cons entry rest ih =>
    have hentry : (name, first) ∈ ((earlierWith before entry.2).map fun first ↦
        (entry.1, first)).toList ↔ earlierWith before entry.2 = some first ∧ entry.1 = name := by
      cases earlierWith before entry.2 <;> simp [and_comm, eq_comm]
    rw [repeatsBehind, List.mem_append, ih, hentry]
    constructor
    · rintro (⟨hfirst, rfl⟩ | ⟨front, field, back, rfl, hfirst⟩)
      · refine ⟨[], entry.2, rest, rfl, ?_⟩
        rwa [List.append_nil]
      · refine ⟨entry :: front, field, back, rfl, ?_⟩
        rwa [List.append_assoc] at hfirst
    · rintro ⟨front, field, back, hfields, hfirst⟩
      cases front with
      | nil =>
        cases hfields
        rw [List.append_nil] at hfirst
        exact .inl ⟨hfirst, rfl⟩
      | cons _ front =>
        cases hfields
        refine .inr ⟨front, field, back, rfl, ?_⟩
        rwa [List.append_assoc]

/-- What is found in a list of fields are the fields that repeat a label. -/
theorem mem_repeatsBehind_nil {fields : List (String × FieldConfig)} :
    (name, first) ∈ repeatsBehind [] fields ↔ RepeatsLabel fields name first := by
  rw [mem_repeatsBehind]
  constructor
  · rintro ⟨front, field, back, rfl, hfirst⟩
    obtain ⟨label, hlabel, hwith⟩ := Option.bind_eq_some_iff.mp hfirst
    obtain ⟨before, firstField, between, rfl, hfirstLabel, hbefore⟩ :=
      firstWith_eq_some_iff.mp hwith
    rw [List.append_assoc, List.cons_append]
    exact .intro hbefore hfirstLabel hlabel
  · intro h
    cases h with
    | @intro label _ _ field firstField before between after hbefore hfirst hfield =>
      refine ⟨before ++ (first, firstField) :: between, field, after, ?_, ?_⟩
      · rw [List.append_assoc, List.cons_append]
      · rw [List.nil_append, earlierWith, hfield, Option.bind_some]
        exact firstWith_eq_some_iff.mpr ⟨before, firstField, between, rfl, hfirst, hbefore⟩

theorem length_dedup_concat (labels : List String) (label : String) :
    (labels ++ [label]).dedup.length = labels.dedup.length + if label ∈ labels then 0 else 1 := by
  rw [(List.perm_append_singleton label labels).dedup.length_eq]
  split_ifs with hmem
  · rw [List.dedup_cons_of_mem hmem, Nat.add_zero]
  · rw [List.dedup_cons_of_notMem hmem, List.length_cons]

/-- Every field with a label is found or is the first one with its label. -/
theorem length_repeatsBehind (before rest : List (String × FieldConfig)) :
    (repeatsBehind before rest).length + (labelsOf (before ++ rest)).dedup.length =
      (labelsOf before).dedup.length + (labelsOf rest).length := by
  induction rest generalizing before with
  | nil => simp [repeatsBehind, labelsOf]
  | cons entry rest ih =>
    have htail := ih (before ++ [entry])
    rw [List.append_assoc, List.singleton_append, labelsOf_concat] at htail
    rw [repeatsBehind, List.length_append, earlierWith, labelsOf_cons, List.length_append]
    cases hlabel : entry.2.comparedLabel? with
    | none =>
      rw [hlabel, Option.toList_none, List.append_nil] at htail
      rw [Option.bind_none, Option.map_none, Option.toList_none, Option.toList_none,
        List.length_nil, List.length_nil, Nat.zero_add, Nat.zero_add]
      exact htail
    | some label =>
      have hmem : (firstWith label before).isSome = true ↔ label ∈ labelsOf before :=
        isSome_firstWith_iff
      rw [hlabel, Option.toList_some, length_dedup_concat] at htail
      rw [Option.bind_some, Option.toList_some, List.length_singleton]
      cases hfirst : firstWith label before with
      | none =>
        rw [hfirst] at hmem
        rw [if_neg fun h ↦ Bool.false_ne_true (hmem.mpr h)] at htail
        rw [Option.map_none, Option.toList_none, List.length_nil]
        omega
      | some first =>
        rw [hfirst] at hmem
        rw [if_pos (hmem.mp rfl)] at htail
        rw [Option.map_some, Option.toList_some, List.length_singleton]
        omega

end

/-! ## The rule -/

namespace ModelConfig

/-- The compared labels with their fields, in the order of the fields. -/
def labelEntries (fields : List (String × FieldConfig)) : List (String × String) :=
  fields.filterMap fun entry ↦ entry.2.comparedLabel?.map fun label ↦ (label, entry.1)

theorem comparedLabels_eq (config : ModelConfig) :
    config.comparedLabels = labelEntries config.fields.entries := by
  rw [ModelConfig.comparedLabels, labelEntries]
  apply congrArg (List.filterMap · config.fields.entries)
  funext entry
  rw [FieldConfig.comparedLabel?]
  cases entry.2 .label with
  | none => rfl
  | some label =>
    dsimp only [Option.map_some, normalLabel]
    by_cases h : Text.lowercase (Text.trim label) = ""
    · simp [h]
    · simp [h]

/-- With the first field of each label in mind, the rule finds the fields that repeat a label. -/
theorem repeatedLabels_eq {seen : List (String × String)} {before : List (String × FieldConfig)}
    (h : ∀ label, seen.lookup label = firstWith label before)
    (rest : List (String × FieldConfig)) :
    repeatedLabels seen (labelEntries rest) =
      (repeatsBehind before rest).map fun r ↦ .sameLabel r.1 r.2 := by
  induction rest generalizing seen before with
  | nil => rfl
  | cons entry rest ih =>
    rw [repeatsBehind, earlierWith, List.map_append]
    cases hlabel : entry.2.comparedLabel? with
    | none =>
      have hentries : labelEntries (entry :: rest) = labelEntries rest := by
        rw [labelEntries, List.filterMap_cons, hlabel]
        rfl
      rw [hentries]
      apply ih
      intro label
      rw [h, firstWith_concat, hlabel, if_neg nofun, Option.or_none]
    | some label =>
      have hentries : labelEntries (entry :: rest) = (label, entry.1) :: labelEntries rest := by
        rw [labelEntries, List.filterMap_cons, hlabel]
        rfl
      rw [hentries, repeatedLabels, h label, Option.bind_some]
      cases hfirst : firstWith label before with
      | none =>
        apply ih
        intro other
        rw [firstWith_concat_of_label hlabel, hfirst, Option.none_or]
        split_ifs with hother
        · rw [hother, List.lookup_cons_self]
        · rw [List.lookup_cons, beq_false_of_ne hother, h]
      | some first =>
        apply congrArg (LintProblem.sameLabel entry.1 first :: ·)
        apply ih
        intro other
        rw [firstWith_concat_of_label hlabel, hfirst, Option.some_or, h]
        split_ifs with hother
        · rw [hother, hfirst]
        · rfl

/-- The finding that a field has the label of another one. -/
def repeatedLabel (config : ModelConfig) (severity : LintSeverity) (name first : String) :
    LintFinding :=
  ⟨"duplicate-label", severity, config.model, some name,
    "Field \"" ++ name ++ "\" has the same label as \"" ++ first ++ "\""⟩

/--
The rule about equal labels finds, in their order and each once, the fields that have the label of an
earlier field, and names the first field that has it. There are as many fields with a label that is
not blank as there are findings and different labels together.
-/
theorem duplicateLabel_finds_repeated (config : ModelConfig) (severity : LintSeverity) :
    (∃ repeats : List (String × String),
      config.lintFindings .duplicateLabel severity =
          repeats.map (fun r ↦ config.repeatedLabel severity r.1 r.2) ∧
        (repeats.map Prod.fst).Sublist config.fields.keys ∧
          ∀ name first, (name, first) ∈ repeats ↔
            RepeatsLabel config.fields.entries name first) ∧
      (config.lintFindings .duplicateLabel severity).length +
          (labelsOf config.fields.entries).dedup.length =
        (config.fields.entries.filter fun entry ↦ entry.2.isLabeled).length := by
  have hfindings : config.lintFindings .duplicateLabel severity =
      (repeatsBehind [] config.fields.entries).map fun r ↦
        config.repeatedLabel severity r.1 r.2 := by
    have hunseen : ∀ label, ([] : List (String × String)).lookup label = firstWith label [] :=
      fun _ ↦ rfl
    rw [lintFindings, lintProblems, comparedLabels_eq, repeatedLabels_eq hunseen, List.map_map]
    rfl
  refine ⟨⟨repeatsBehind [] config.fields.entries, hfindings, ?_, ?_⟩, ?_⟩
  · exact repeatsBehind_sublist [] config.fields.entries
  · exact fun name first ↦ mem_repeatsBehind_nil
  · have hlength := length_repeatsBehind [] config.fields.entries
    rw [List.nil_append, length_labelsOf] at hlength
    rw [hfindings, List.length_map]
    exact hlength.trans (Nat.zero_add _)

/-- Of three fields with one label, the last two are found, and both name the first. -/
example :
    ((assemble "User" [⟨"Name", "label:Name"⟩, ⟨"Mail", "required"⟩, ⟨"Nick", "label: name "⟩,
      ⟨"Alias", "label:NAME"⟩]).lintFindings .duplicateLabel .info).map LintFinding.message =
        ["Field \"Nick\" has the same label as \"Name\"",
          "Field \"Alias\" has the same label as \"Name\""] := by
  decide +kernel

end ModelConfig

end FieldTags
