import FieldTags.Config.View
import FieldTags.Proofs.Check.Problems
import FieldTags.Proofs.Expression.Condition
import FieldTags.Proofs.Text.Trimming

/-!
# What validation says about templates

The default values of a field, what disables it and the parameters of its request for options may
be templates. Validation reports those of them that do not compile, by the field and their place.
What is reported gives nothing wherever the field is used, and where nothing is reported no use of
the field, in any form and any scope, comes upon a text that does not compile.
-/

namespace FieldTags

/-! ## Texts that do not compile -/

namespace Template

variable {s : String} {scope : Scope} {error : ExpressionError}

/-- The text stands between double braces, it is not blank there, and it does not compile. -/
def Breaks (s : String) (error : ExpressionError) : Prop :=
  ∃ interior, s.toList = ['{', '{'] ++ interior ++ ['}', '}'] ∧
    interior.all Text.isBlank = false ∧
    Expression.compile (String.ofList (Text.trimChars interior)) = .error error

theorem breaks_iff : Breaks s error ↔
    ∃ body, body? s = some body ∧ body ≠ "" ∧ Expression.compile body = .error error := by
  have hblank (interior : List Char) :
      String.ofList (Text.trimChars interior) ≠ "" ↔ interior.all Text.isBlank = false := by
    rw [← Bool.not_eq_true, ← Text.trimChars_eq_nil_iff, ne_eq, String.ofList_eq_empty_iff]
  constructor
  · rintro ⟨interior, hs, hne, herror⟩
    exact ⟨_, body?_eq_some_iff.mpr ⟨interior, hs, rfl⟩, (hblank interior).mpr hne, herror⟩
  · rintro ⟨body, hbody, hne, herror⟩
    obtain ⟨interior, hs, rfl⟩ := body?_eq_some_iff.mp hbody
    exact ⟨interior, hs, (hblank interior).mp hne, herror⟩

/-- A template fails where its body does not compile and where the evaluation fails. -/
theorem outcome_eq_failed_iff {body : String} : outcome scope s = .failed body error ↔
    body? s = some body ∧ body ≠ "" ∧
      (Expression.compile body).bind (Expression.eval scope) = .error error := by
  unfold outcome
  cases body? s with
  | none => simp
  | some found =>
    by_cases hempty : found = ""
    · simp only [hempty, if_true, Option.some.injEq, reduceCtorEq, false_iff, not_and]
      rintro rfl hne
      exact absurd rfl hne
    · simp only [hempty, if_false, Option.some.injEq]
      cases hresult : (Expression.compile found).bind (Expression.eval scope) with
      | ok data =>
        refine iff_of_false nofun ?_
        rintro ⟨rfl, -, herror⟩
        cases hresult.symm.trans herror
      | error cause =>
        constructor
        · intro h
          cases h
          exact ⟨rfl, hempty, hresult⟩
        · rintro ⟨rfl, -, herror⟩
          cases hresult.symm.trans herror
          rfl

/-- A text that does not compile gives nothing in any scope. -/
theorem Breaks.evaluate_eq_none (h : Breaks s error) (scope : Scope) : evaluate scope s = none := by
  obtain ⟨body, hbody, hne, herror⟩ := breaks_iff.mp h
  have hfailed : outcome scope s = .failed body error := by
    rw [outcome_eq_failed_iff, Expression.bind_eq_error_iff]
    exact ⟨hbody, hne, .inl herror⟩
  rw [evaluate, hfailed, Outcome.data?]

/-- A template that fails has a body that compiles, unless it is a text that does not. -/
theorem compile_of_mem_notes {body : String} (hbreaks : ∀ error, ¬ Breaks s error)
    (h : .templateFailed body error ∈ notes scope s) :
    ∃ e, Expression.compile body = .ok e := by
  have hfailed : outcome scope s = .failed body error := by
    unfold notes at h
    split at h
    next found cause houtcome =>
      rw [houtcome]
      simpa [eq_comm] using h
    · cases h
  obtain ⟨hbody, hne, -⟩ := outcome_eq_failed_iff.mp hfailed
  cases hcompile : Expression.compile body with
  | ok e => exact ⟨e, rfl⟩
  | error cause => exact absurd (breaks_iff.mpr ⟨body, hbody, hne, hcompile⟩) (hbreaks cause)

end Template

/-! ## Where templates stand -/

namespace FieldConfig

variable {config : FieldConfig} {place : TemplatePlace} {s : String} {error : ExpressionError}

theorem templateError?_eq_some_iff : templateError? s = some error ↔ Template.Breaks s error := by
  rw [Template.breaks_iff]
  unfold templateError?
  cases Template.body? s with
  | none => simp
  | some body =>
    by_cases hempty : body = ""
    · simp [hempty]
    · cases hcompile : Expression.compile body <;> simp [hempty, hcompile]

theorem scalarText?_eq_some_iff {value : Option TagValue} :
    scalarText? value = some s ↔ value = some (.text s) := by
  unfold scalarText?
  split
  · simp
  next hother =>
    refine iff_of_false nofun ?_
    rintro rfl
    exact hother s rfl

/-- The text of a field at a place where it may hold a template: an initial value, what disables the
field, or a parameter of its request for options. -/
def textAt? (config : FieldConfig) : TemplatePlace → Option String
  | .attribute .default => scalarText? (config .default)
  | .attribute .disabled => scalarText? (config .disabled)
  | .attribute .addDisabled => scalarText? (config .addDisabled)
  | .attribute .editDisabled => scalarText? (config .editDisabled)
  | .attribute .searchDefault => scalarText? (config .searchDefault)
  | .attribute _ => none
  | .parameter name =>
    match config .apiParams with
    | some (.pairs entries) => entries.find? name
    | _ => none

/-- The texts that validation finds in scalars are those at the places of attributes. -/
theorem mem_scalarTexts_iff : (place, s) ∈ (config.templateScalars.filterMap fun (a, value) ↦
      (scalarText? value).map fun s ↦ (TemplatePlace.attribute a, s)) ↔
    ∃ a, place = .attribute a ∧ config.textAt? (.attribute a) = some s := by
  simp only [List.mem_filterMap, Option.map_eq_some_iff, Prod.mk.injEq, Prod.exists]
  constructor
  · rintro ⟨a, value, hvalue, _, htext, rfl, rfl⟩
    refine ⟨a, rfl, ?_⟩
    simp only [templateScalars, List.mem_cons, Prod.mk.injEq, List.not_mem_nil, or_false] at hvalue
    rcases hvalue with ⟨rfl, rfl⟩ | ⟨rfl, rfl⟩ | ⟨rfl, rfl⟩ | ⟨rfl, rfl⟩ | ⟨rfl, rfl⟩ <;> exact htext
  · rintro ⟨a, rfl, htext⟩
    cases a <;> first
      | cases htext
      | exact ⟨_, _, by simp [templateScalars], s, htext, rfl, rfl⟩

/-- The texts that validation looks at are those at the places. -/
theorem mem_templateTexts_iff :
    (place, s) ∈ config.templateTexts ↔ config.textAt? place = some s := by
  unfold templateTexts
  dsimp only
  rw [List.mem_append, mem_scalarTexts_iff]
  split
  next entries hentries =>
    rcases place with a | name
    · simp
    · simp [textAt?, hentries, OrderedMap.find?_eq_some_iff]
  next hother =>
    rcases place with a | name
    · simp
    · unfold textAt?
      split
      next entries hentries => exact absurd hentries (hother entries)
      · simp

/-! ## Where templates are used -/

/-- The attribute that decides in a form whether the field takes no input: that of the form if it is
set, or else the general one. -/
def disablingAttribute (config : FieldConfig) : FormMode → FieldAttribute
  | .add => if (config .addDisabled).isSome then .addDisabled else .disabled
  | .edit => if (config .editDisabled).isSome then .editDisabled else .disabled
  | _ => .disabled

theorem textAt?_disablingAttribute (config : FieldConfig) (mode : FormMode) :
    config.textAt? (.attribute (config.disablingAttribute mode)) =
      scalarText? (config.disabling mode) := by
  have hor (own general : Option TagValue) (a : FieldAttribute)
      (ha : config.textAt? (.attribute a) = scalarText? own)
      (hgeneral : config.textAt? (.attribute .disabled) = scalarText? general) :
      config.textAt? (.attribute (if own.isSome then a else .disabled)) =
        scalarText? (own <|> general) := by
    cases own with
    | none => exact hgeneral
    | some value => exact ha
  cases mode with
  | add => exact hor _ _ .addDisabled rfl rfl
  | edit => exact hor _ _ .editDisabled rfl rfl
  | _ => rfl

/-- What there is to note about the values of the field that depend on a scope. -/
def valueNotes (config : FieldConfig) (mode : FormMode) (scope : Scope) : List Note :=
  scalarNotes (config .default) scope ++ scalarNotes (config .searchDefault) scope ++
    config.disablingNotes mode scope ++ config.requestParamsNotes scope

variable {scope : Scope} {note : Note}

/-- A scalar that is a text that does not compile gives nothing. -/
theorem inScope_eq_none {value : Option TagValue} (htext : scalarText? value = some s)
    (hbreaks : Template.Breaks s error) (scope : Scope) :
    value.bind (TagValue.inScope scope) = none := by
  rw [scalarText?_eq_some_iff.mp htext]
  exact hbreaks.evaluate_eq_none scope

/-- What is noted about a scalar is noted about the text that it is. -/
theorem exists_text_of_mem_scalarNotes {value : Option TagValue}
    (h : note ∈ scalarNotes value scope) :
    ∃ s, scalarText? value = some s ∧ note ∈ Template.notes scope s := by
  rcases value with - | (b | x | s)
  · cases h
  · cases h
  · cases h
  · exact ⟨s, rfl, h⟩

/-- What is noted about the values of a field is noted about a text that it has at some place. -/
theorem exists_text_of_mem_valueNotes {mode : FormMode} (h : note ∈ config.valueNotes mode scope) :
    ∃ place s, config.textAt? place = some s ∧ note ∈ Template.notes scope s := by
  simp only [valueNotes, List.mem_append, or_assoc] at h
  rcases h with h | h | h | h
  · obtain ⟨s, htext, hnote⟩ := exists_text_of_mem_scalarNotes h
    exact ⟨.attribute .default, s, htext, hnote⟩
  · obtain ⟨s, htext, hnote⟩ := exists_text_of_mem_scalarNotes h
    exact ⟨.attribute .searchDefault, s, htext, hnote⟩
  · unfold disablingNotes at h
    obtain ⟨s, htext, hnote⟩ := exists_text_of_mem_scalarNotes (List.mem_ite_nil_left.mp h).2
    rw [← textAt?_disablingAttribute] at htext
    exact ⟨_, s, htext, hnote⟩
  · unfold requestParamsNotes at h
    split at h
    next entries hentries =>
      obtain ⟨⟨name, s⟩, hentry, hnote⟩ := List.mem_flatMap.mp h
      refine ⟨.parameter name, s, ?_, hnote⟩
      simpa [textAt?, hentries, OrderedMap.find?_eq_some_iff] using hentry
    · cases h

/-- A parameter of the request for options comes from the text that is set for it. -/
theorem exists_text_of_mem_requestParams {name : String} {data : Json}
    (h : (name, data) ∈ config.requestParams scope) :
    ∃ s, config.textAt? (.parameter name) = some s ∧ Template.evaluate scope s = some data := by
  unfold requestParams at h
  split at h
  next entries hentries =>
    obtain ⟨⟨key, s⟩, hentry, heq⟩ := List.mem_filterMap.mp h
    obtain ⟨value, hvalue, hpair⟩ := Option.map_eq_some_iff.mp heq
    cases hpair
    refine ⟨s, ?_, hvalue⟩
    simpa [textAt?, hentries, OrderedMap.find?_eq_some_iff] using hentry
  · cases h

end FieldConfig

/-! ## Reports and uses -/

namespace ModelConfig

/-- A template of the field at this place is reported. -/
def FlagsTemplate (config : ModelConfig) (name : String) (place : TemplatePlace) : Prop :=
  ∃ p ∈ config.problems, p.code = "UIT-E003" ∧ ∃ error, p = .brokenTemplate name place error

/-- What is reported about the templates of a field is what its uses come upon. -/
structure TellsTemplates (config : ModelConfig) (name : String) (field : FieldConfig) : Prop where
  /-- The places are reported whose texts do not compile. -/
  flags_iff : ∀ place, config.FlagsTemplate name place ↔
    ∃ s error, field.textAt? place = some s ∧ Template.Breaks s error
  /-- The findings name the field, the place and the reason. -/
  finding_iff : ∀ finding, finding ∈ config.validate.errors ∧ finding.code = "UIT-E003" ∧
      finding.field = some name ↔
    ∃ place s error, field.textAt? place = some s ∧ Template.Breaks s error ∧
      finding = ⟨"UIT-E003", .error, config.model, some name,
        place.name ++ " expression does not compile: " ++ error.message⟩
  /-- A reported initial value is none. -/
  defaultValue_eq : config.FlagsTemplate name (.attribute .default) →
    ∀ scope, field.defaultValue scope = none
  searchDefault_eq : config.FlagsTemplate name (.attribute .searchDefault) →
    ∀ scope, field.searchDefault scope = none
  /-- Where the setting that decides is reported, only a field for reading takes no input. -/
  isDisabled_eq : ∀ mode, config.FlagsTemplate name (.attribute (field.disablingAttribute mode)) →
    ∀ scope, field.isDisabled mode scope = decide (field .readonly = some true)
  /-- A reported parameter is left out of the request. -/
  requestParams_not_mem : ∀ key, config.FlagsTemplate name (.parameter key) →
    ∀ scope data, (key, data) ∉ field.requestParams scope
  /-- Where nothing is reported, everything that fails has been compiled. -/
  compiles : (∀ place, ¬ config.FlagsTemplate name place) →
    ∀ mode scope body error, .templateFailed body error ∈ field.valueNotes mode scope →
      ∃ e, Expression.compile body = .ok e

variable {config : ModelConfig} {name : String} {field : FieldConfig}

/-- The templates of a field that are reported are those that it has. -/
theorem brokenTemplate_mem_problems_iff (hfield : (name, field) ∈ config.fields.entries)
    {p : Problem} : p ∈ config.problems ∧ p.code = "UIT-E003" ∧ p.field? = some name ↔
      ∃ place s error, field.textAt? place = some s ∧ Template.Breaks s error ∧
        p = .brokenTemplate name place error := by
  rw [← and_assoc, mem_problems_and_code_iff]
  simp only [FieldConfig.mem_templateProblems_iff, FieldConfig.mem_templateTexts_iff,
    FieldConfig.templateError?_eq_some_iff]
  constructor
  · rintro ⟨⟨other, found, hfound, place, s, error, htext, hbreaks, rfl⟩, hname⟩
    obtain rfl : other = name := Option.some.inj hname
    -- A name has one entry, so this is the field.
    have hsame := OrderedMap.find?_eq_some_iff.mpr hfield
    rw [OrderedMap.find?_eq_some_iff.mpr hfound, Option.some.injEq] at hsame
    exact ⟨place, s, error, hsame ▸ htext, hbreaks, rfl⟩
  · rintro ⟨place, s, error, htext, hbreaks, rfl⟩
    exact ⟨⟨name, field, hfield, place, s, error, htext, hbreaks, rfl⟩, rfl⟩

theorem flagsTemplate_iff (hfield : (name, field) ∈ config.fields.entries) {place : TemplatePlace} :
    config.FlagsTemplate name place ↔
      ∃ s error, field.textAt? place = some s ∧ Template.Breaks s error := by
  constructor
  · rintro ⟨p, hp, hcode, error, rfl⟩
    obtain ⟨_, s, _, htext, hbreaks, heq⟩ :=
      (brokenTemplate_mem_problems_iff hfield).mp ⟨hp, hcode, rfl⟩
    cases heq
    exact ⟨s, error, htext, hbreaks⟩
  · rintro ⟨s, error, htext, hbreaks⟩
    obtain ⟨hp, hcode, -⟩ :=
      (brokenTemplate_mem_problems_iff hfield).mpr ⟨place, s, error, htext, hbreaks, rfl⟩
    exact ⟨_, hp, hcode, error, rfl⟩

/-- Validation tells of the templates of every field what happens to them. -/
theorem tellsTemplates (config : ModelConfig) (name : String) (field : FieldConfig)
    (hfield : (name, field) ∈ config.fields.entries) : config.TellsTemplates name field where
  flags_iff place := flagsTemplate_iff hfield
  finding_iff finding := by
    rw [mem_errors_validate]
    constructor
    · rintro ⟨⟨p, hp, -, rfl⟩, hcode, hname⟩
      obtain ⟨place, s, error, htext, hbreaks, rfl⟩ :=
        (brokenTemplate_mem_problems_iff hfield).mp ⟨hp, hcode, hname⟩
      exact ⟨place, s, error, htext, hbreaks, rfl⟩
    · rintro ⟨place, s, error, htext, hbreaks, rfl⟩
      obtain ⟨hp, -, -⟩ :=
        (brokenTemplate_mem_problems_iff hfield).mpr ⟨place, s, error, htext, hbreaks, rfl⟩
      exact ⟨⟨_, hp, rfl, rfl⟩, rfl, rfl⟩
  defaultValue_eq hflags scope := by
    obtain ⟨s, error, htext, hbreaks⟩ := (flagsTemplate_iff hfield).mp hflags
    exact FieldConfig.inScope_eq_none htext hbreaks scope
  searchDefault_eq hflags scope := by
    obtain ⟨s, error, htext, hbreaks⟩ := (flagsTemplate_iff hfield).mp hflags
    exact FieldConfig.inScope_eq_none htext hbreaks scope
  isDisabled_eq mode hflags scope := by
    obtain ⟨s, error, htext, hbreaks⟩ := (flagsTemplate_iff hfield).mp hflags
    rw [FieldConfig.textAt?_disablingAttribute] at htext
    rw [FieldConfig.isDisabled, FieldConfig.inScope_eq_none htext hbreaks scope]
    simp
  requestParams_not_mem key hflags scope data := by
    obtain ⟨s, error, htext, hbreaks⟩ := (flagsTemplate_iff hfield).mp hflags
    intro hmem
    obtain ⟨found, hfound, hdata⟩ := FieldConfig.exists_text_of_mem_requestParams hmem
    cases htext.symm.trans hfound
    cases (hbreaks.evaluate_eq_none scope).symm.trans hdata
  compiles hclean mode scope body error hnote := by
    obtain ⟨place, s, htext, hmem⟩ := FieldConfig.exists_text_of_mem_valueNotes hnote
    apply Template.compile_of_mem_notes _ hmem
    intro cause hbreaks
    exact hclean place ((flagsTemplate_iff hfield).mpr ⟨s, cause, htext, hbreaks⟩)

/-- A model with a field whose initial value breaks off and whose request for options has one
parameter that does not compile and one that is plain. -/
def draftOrders : ModelConfig :=
  .assemble "Order" [⟨"owner", "default:{{ user. }};" ++
    "api-params:team={{ row..team }};;kind=user"⟩]

theorem flagsTemplate_draftOrders :
    draftOrders.FlagsTemplate "owner" (.attribute .default) ∧
      draftOrders.FlagsTemplate "owner" (.parameter "team") := by
  constructor
  · exact ⟨.brokenTemplate "owner" (.attribute .default) (.unexpectedEnd "property name"),
      by decide +kernel, rfl, _, rfl⟩
  · exact ⟨.brokenTemplate "owner" (.parameter "team") (.unexpectedToken "." "property name" 4),
      by decide +kernel, rfl, _, rfl⟩

/-- The field has no initial value in any scope, and its requests never have the parameter. -/
theorem tellsTemplates_draftOrders : ∃ field, ("owner", field) ∈ draftOrders.fields.entries ∧
    ∀ scope, field.defaultValue scope = none ∧
      ∀ data, ("team", data) ∉ field.requestParams scope := by
  have hthere : (draftOrders.fields.find? "owner").isSome = true := by
    decide +kernel
  obtain ⟨field, hfind⟩ := Option.isSome_iff_exists.mp hthere
  have hfield := OrderedMap.find?_eq_some_iff.mp hfind
  obtain ⟨hdefault, hteam⟩ := flagsTemplate_draftOrders
  have htells := tellsTemplates draftOrders "owner" field hfield
  refine ⟨field, hfield, ?_⟩
  intro scope
  exact ⟨htells.defaultValue_eq hdefault scope, htells.requestParams_not_mem "team" hteam scope⟩

end ModelConfig

end FieldTags
