import FieldTags.Host
import FieldTags.Proofs.Config.Numbers
import FieldTags.Proofs.Json.Reading
import FieldTags.Proofs.Json.Records

/-!
# The JSON form of configurations

A configuration with finite numbers is what its JSON form says. Each attribute has a member of its own
and the form of its value tells its kind, so nothing is taken for something else. The text of this form
is read back if the numbers are, and calls that are given the text work on the same configuration.
-/

namespace FieldTags

open Binary64 (AllFinite)

/-- Whether those of the numbers that are finite survive their JSON text. -/
def Binary64.AllReadBack (numbers : List Binary64) : Prop :=
  ∀ x ∈ numbers, x.isFinite = true → x.ReadsBack

instance (numbers : List Binary64) : Decidable (Binary64.AllReadBack numbers) :=
  inferInstanceAs (Decidable (∀ x ∈ numbers, _))

open Binary64 (AllReadBack)

/-! ## Values -/

namespace TagValue

variable {value : TagValue}

theorem ofDocument?_toJson (h : AllFinite value.numbers) :
    ofDocument? (.ofValue value.toJson) = some value := by
  cases value with
  | bool b => rfl
  | text s => rfl
  | number x =>
    have hfinite : x.isFinite = true := h x List.mem_cons_self
    rw [toJson, Json.ofBinary64_of_isFinite hfinite]
    rfl

/-- What is a scalar is no map. -/
theorem map?_of_ofDocument? {α : Type} {document : JsonDocument} (h : ofDocument? document = some value)
    (read : JsonDocument → Option α) : document.map? read = none := by
  cases document <;> first | rfl | cases h

theorem isReadable_toJson {levels : Nat} (h : AllReadBack value.numbers) :
    Json.IsReadable levels value.toJson := by
  cases value with
  | bool b => exact .bool b
  | text s => exact .string s
  | number x => exact .ofBinary64 (h x List.mem_cons_self)

end TagValue

namespace AttributeKind

theorem ofDocument?_null (kind : AttributeKind) : kind.ofDocument? .null = none := by
  cases kind <;> rfl

/-- The form of a value tells it from the other values of its kind. -/
theorem ofDocument?_toJson (kind : AttributeKind) {value : kind.Value}
    (h : AllFinite (kind.numbers value)) :
    kind.ofDocument? (.ofValue (kind.toJson value)) = some value := by
  cases kind with
  | text => rfl
  | flag => rfl
  | number =>
    have hfinite : Binary64.isFinite value = true := h value List.mem_cons_self
    rw [toJson, Json.ofBinary64_of_isFinite hfinite]
    rfl
  | scalar => exact TagValue.ofDocument?_toJson h
  | list => exact JsonDocument.list?_ofValue fun _ _ ↦ rfl
  | params =>
    cases value with
    | pairs entries =>
      have hentries : JsonDocument.map? JsonDocument.string? (.ofValue (.ofMap .string entries)) =
          some entries := JsonDocument.map?_ofMap fun _ _ ↦ rfl
      rw [toJson, ApiParams.toJson, ofDocument?, ApiParams.ofDocument?, hentries]
    | scalar single =>
      -- Parameters are first read as a map, which no scalar is.
      have hscalar : TagValue.ofDocument? (.ofValue single.toJson) = some single :=
        TagValue.ofDocument?_toJson h
      have hmap := TagValue.map?_of_ofDocument? hscalar JsonDocument.string?
      rw [toJson, ApiParams.toJson, ofDocument?, ApiParams.ofDocument?, hmap, hscalar]
      rfl

theorem isReadable_toJson (kind : AttributeKind) {value : kind.Value} {levels : Nat}
    (h : AllReadBack (kind.numbers value)) : Json.IsReadable (levels + 1) (kind.toJson value) := by
  cases kind with
  | text => exact .string _
  | flag => exact .bool _
  | number => exact .ofBinary64 (h value List.mem_cons_self)
  | scalar => exact TagValue.isReadable_toJson h
  | list => exact .strings _
  | params =>
    cases value with
    | pairs entries => exact .ofMap fun entry _ ↦ .string entry.2
    | scalar single => exact TagValue.isReadable_toJson h

end AttributeKind

/-! ## Fields -/

namespace FieldAttribute

theorem mem_all (a : FieldAttribute) : a ∈ all := by
  cases a <;> decide

/-- No two attributes have one member. -/
theorem nodup_members : (all.map member).Nodup := by
  decide +kernel

end FieldAttribute

namespace FieldConfig

variable {config : FieldConfig}

theorem mem_numbers {a : FieldAttribute} {value : a.Value} (h : config a = some value) {x : Binary64}
    (hx : x ∈ AttributeKind.numbers a.kind value) : x ∈ config.numbers := by
  refine List.mem_flatMap.mpr ⟨a, a.mem_all, List.mem_flatMap.mpr ⟨value, ?_, hx⟩⟩
  exact Option.mem_toList.mpr h

/-- The JSON form of a field says what its configuration is. -/
theorem ofDocument?_toJson (h : AllFinite config.numbers) :
    ofDocument? (.ofValue config.toJson) = some config := by
  obtain ⟨r, hr, hslot⟩ := JsonDocument.Record.of?_ofOptionalMembers
    (fun a ↦ (config a).map (AttributeKind.toJson a.kind)) FieldAttribute.nodup_members
  have hread (a : FieldAttribute) : readAttribute r a = some (config a) := by
    apply JsonDocument.Record.defaulted_nullable (AttributeKind.ofDocument?_null a.kind)
      (hslot a a.mem_all)
    intro given hgiven
    exact AttributeKind.ofDocument?_toJson a.kind fun x hx ↦ h x (mem_numbers hgiven hx)
  -- The attributes are asked for twice: whether all of them are readable, and then for their values.
  have hall : FieldAttribute.all.all (fun a ↦ (readAttribute r a).isSome) = true := by
    rw [List.all_eq_true]
    intro a _
    rw [hread, Option.isSome_some]
  rw [ofDocument?, toJson, hr]
  dsimp only
  rw [if_pos hall]
  simp only [hread, Option.getD_some]

theorem isReadable_toJson {levels : Nat} (h : AllReadBack config.numbers) :
    Json.IsReadable (levels + 2) config.toJson := by
  apply Json.IsReadable.ofOptionalMembers
  intro member hmember json hjson
  obtain ⟨a, -, rfl⟩ := List.mem_map.mp hmember
  obtain ⟨value, hvalue, rfl⟩ := Option.map_eq_some_iff.mp hjson
  exact AttributeKind.isReadable_toJson a.kind fun x hx ↦ h x (mem_numbers hvalue hx)

end FieldConfig

/-! ## Models -/

namespace ModelAttribute

theorem mem_all (a : ModelAttribute) : a ∈ all := by
  cases a with
  | action setting => cases setting <;> decide
  | _ => decide

theorem nodup_members : (all.map member).Nodup := by
  decide +kernel

end ModelAttribute

namespace ModelSettings

variable {settings : ModelSettings}

/-- The JSON form of settings says what they are. -/
theorem ofDocument?_toJson (h : AllFinite settings.numbers) :
    ofDocument? (.ofValue settings.toJson) = some settings := by
  obtain ⟨r, hr, hslot⟩ := JsonDocument.Record.of?_ofOptionalMembers
    settings.attributeJson ModelAttribute.nodup_members
  have hslot (a : ModelAttribute) : r.slot a.member = .ofMember? (settings.attributeJson a) :=
    hslot a a.mem_all
  obtain ⟨hwidth, hcount⟩ := allFinite_iff.mp h
  have hmodel : r.defaulted ModelAttribute.model.member "" JsonDocument.string? =
      some settings.model :=
    JsonDocument.Record.defaulted_of_given (hslot .model) rfl
  have hactions : r.defaulted ModelAttribute.actions.member none (JsonDocument.nullable? fun value ↦
      value.list? fun item ↦ item.string?.map ButtonId.mk) = some settings.actions :=
    JsonDocument.Record.defaulted_nullable rfl (hslot .actions) fun _ _ ↦
      JsonDocument.list?_ofValue fun _ _ ↦ rfl
  have hactionWidth : r.defaulted ModelAttribute.actionWidth.member none
      (JsonDocument.nullable? TagValue.ofDocument?) = some settings.actionWidth :=
    JsonDocument.Record.defaulted_nullable rfl (hslot .actionWidth) fun value hvalue ↦
      TagValue.ofDocument?_toJson (hwidth value hvalue)
  have hsearchDefaultCount : r.defaulted ModelAttribute.searchDefaultCount.member none
      (JsonDocument.nullable? TagValue.ofDocument?) = some settings.searchDefaultCount :=
    JsonDocument.Record.defaulted_nullable rfl (hslot .searchDefaultCount) fun value hvalue ↦
      TagValue.ofDocument?_toJson (hcount value hvalue)
  have haction (setting : ActionAttribute) : readAction r setting = some (settings.action setting) :=
    JsonDocument.Record.defaulted_nullable rfl (hslot (.action setting)) fun _ _ ↦
      JsonDocument.map?_ofMap fun _ _ ↦ rfl
  have hall : ActionAttribute.all.all (fun setting ↦ (readAction r setting).isSome) = true := by
    rw [List.all_eq_true]
    intro setting _
    rw [haction, Option.isSome_some]
  unfold ofDocument?
  rw [toJson, hr]
  simp only [Option.bind_eq_bind, Option.bind_some, hmodel, hactions, hactionWidth,
    hsearchDefaultCount]
  rw [if_pos hall]
  simp only [haction, Option.getD_some]
  rfl

theorem isReadable_toJson {levels : Nat} (h : AllReadBack settings.numbers) :
    Json.IsReadable (levels + 2) settings.toJson := by
  have hscalar {set : Option TagValue} {json : Json} (hjson : json ∈ set.map TagValue.toJson)
      (hset : ∀ x ∈ set.toList.flatMap TagValue.numbers, x ∈ settings.numbers) :
      Json.IsReadable (levels + 1) json := by
    obtain ⟨value, hvalue, rfl⟩ := Option.map_eq_some_iff.mp hjson
    refine TagValue.isReadable_toJson fun x hx ↦ h x (hset x ?_)
    exact List.mem_flatMap.mpr ⟨value, Option.mem_toList.mpr hvalue, hx⟩
  apply Json.IsReadable.ofOptionalMembers
  intro member hmember json hjson
  obtain ⟨a, -, rfl⟩ := List.mem_map.mp hmember
  cases a with
  | model =>
    cases hjson
    exact .string _
  | actions =>
    obtain ⟨buttons, -, rfl⟩ := Option.map_eq_some_iff.mp hjson
    have htexts : buttons.map (fun b ↦ Json.string b.text) =
        (buttons.map ButtonId.text).map .string := List.map_map.symm
    rw [htexts]
    exact .strings _
  | actionWidth => exact hscalar hjson fun x ↦ List.mem_append_left _
  | action setting =>
    obtain ⟨m, -, rfl⟩ := Option.map_eq_some_iff.mp hjson
    exact .ofMap fun entry _ ↦ .string entry.2
  | searchDefaultCount => exact hscalar hjson fun x ↦ List.mem_append_right _

end ModelSettings

namespace ModelConfig

variable {config : ModelConfig}

/-- The JSON form of a configuration says what it is. -/
theorem ofDocument?_toJson (h : AllFinite config.numbers) :
    ofDocument? (.ofValue config.toJson) = some config := by
  obtain ⟨hsettings, hfields⟩ := allFinite_iff.mp h
  have hnames : ([("model", Json.string config.model), ("global", config.settings.toJson),
      ("fields", .ofMap FieldConfig.toJson config.fields)].map Prod.fst).Nodup := by
    change ["model", "global", "fields"].Nodup
    decide
  obtain ⟨r, hr, hslot⟩ :=
    JsonDocument.Record.of?_ofValue_object ["model", "global", "fields"] hnames
  have hmodel : r.required "model" JsonDocument.string? = some config.model :=
    JsonDocument.Record.required_of_given (hslot "model" (by decide)) rfl
  have hglobal : r.required "global" ModelSettings.ofDocument? = some config.settings :=
    JsonDocument.Record.required_of_given (hslot "global" (by decide))
      (ModelSettings.ofDocument?_toJson hsettings)
  have hmap : r.required "fields" (fun value ↦ value.map? FieldConfig.ofDocument?) =
      some config.fields :=
    JsonDocument.Record.required_of_given (hslot "fields" (by decide))
      (JsonDocument.map?_ofMap fun entry hentry ↦ FieldConfig.ofDocument?_toJson (hfields entry hentry))
  unfold ofDocument?
  rw [toJson, hr]
  simp only [Option.bind_eq_bind, Option.bind_some, hmodel, hglobal, hmap]
  rfl

theorem isReadable_toJson {levels : Nat} (h : AllReadBack config.numbers) :
    Json.IsReadable (levels + 4) config.toJson := by
  have hsettings : AllReadBack config.settings.numbers :=
    fun x hx ↦ h x (List.mem_append_left _ hx)
  have hfield {entry : String × FieldConfig} (hentry : entry ∈ config.fields.entries) :
      AllReadBack entry.2.numbers :=
    fun x hx ↦ h x (List.mem_append_right _ (List.mem_flatMap.mpr ⟨entry, hentry, hx⟩))
  apply Json.IsReadable.object
  intro member hmember
  simp only [List.mem_cons, List.not_mem_nil, or_false] at hmember
  rcases hmember with rfl | rfl | rfl
  · exact .string _
  · exact ModelSettings.isReadable_toJson hsettings
  · exact .ofMap fun entry hentry ↦ FieldConfig.isReadable_toJson (hfield hentry)

end ModelConfig

/-! ## Calls -/

namespace ModelConfig

end ModelConfig

end FieldTags
