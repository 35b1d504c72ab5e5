import FieldTags.Config.Button
import FieldTags.Config.Field

/-!
# Model settings and configurations

The settings of a model name the model and may list its buttons and set, button by button, a
condition, a caption and more. The configuration of a model holds its settings and the configuration
of each of its fields, in the order of their declaration.
-/

namespace FieldTags

/-- The settings of a model. -/
structure ModelSettings where
  /-- The name of the model, which is empty if none is set. -/
  model : String
  actions : Option (List ButtonId)
  actionWidth : Option TagValue
  /-- The settings of the buttons, by their bare names. -/
  action : ActionAttribute → Option (OrderedMap String)
  /-- The number of search fields that are shown at first. -/
  searchDefaultCount : Option TagValue

namespace ModelSettings

def empty : ModelSettings :=
  ⟨"", none, none, fun _ ↦ none, none⟩

/-- The settings that the values of a tag stand for. -/
def ofTag (tag : TagMap) : ModelSettings where
  model := ((tag.find? ModelAttribute.model.key).map TagValue.toText).getD ""
  actions :=
    match tag.find? ModelAttribute.actions.key with
    | some (.text s) => some ((Packed.readList s).map ButtonId.mk)
    | _ => none
  actionWidth := tag.find? ModelAttribute.actionWidth.key
  action := fun setting ↦
    match tag.find? setting.key with
    | some (.text s) => some (Packed.readMap true s)
    | _ => none
  searchDefaultCount := tag.find? ModelAttribute.searchDefaultCount.key

def attributeNotes (a : ModelAttribute) (value : TagValue) : List Note :=
  match a, value with
  | .actions, .text _ => []
  | .actions, value => [.buttonsNotText value]
  | .action _, .text _ => []
  | .action setting, value => [.settingsNotText value setting]
  | _, _ => []

def ofTagNotes (tag : TagMap) : List Note :=
  ModelAttribute.all.flatMap fun a ↦ ((tag.find? a.key).map (attributeNotes a)).getD []

/-- The settings with those that `next` sets laid over them. -/
def overlay (base next : ModelSettings) : ModelSettings where
  model := if next.model = "" then base.model else next.model
  actions := next.actions <|> base.actions
  actionWidth := next.actionWidth <|> base.actionWidth
  action := fun setting ↦ next.action setting <|> base.action setting
  searchDefaultCount := next.searchDefaultCount <|> base.searchDefaultCount

/-- A value that counts as true, or a number in its place. -/
def orNumber (value : Option TagValue) (n : Nat) : Option TagValue :=
  match value with
  | some v => if v.isTruthy then some v else some (.number (.ofNat n))
  | none => some (.number (.ofNat n))

/-- The settings with an action width of 150 and 3 search fields where nothing usable is set. -/
def withDefaults (settings : ModelSettings) : ModelSettings :=
  { settings with
    actionWidth := orNumber settings.actionWidth 150
    searchDefaultCount := orNumber settings.searchDefaultCount 3 }

/-- The JSON form of an attribute, if it is set; the model is always named. -/
def attributeJson (settings : ModelSettings) : ModelAttribute → Option Json
  | .model => some (.string settings.model)
  | .actions => settings.actions.map fun buttons ↦ .array (buttons.map fun b ↦ .string b.text)
  | .actionWidth => settings.actionWidth.map TagValue.toJson
  | .action setting => (settings.action setting).map (Json.ofMap .string)
  | .searchDefaultCount => settings.searchDefaultCount.map TagValue.toJson

def toJson (settings : ModelSettings) : Json :=
  .ofOptionalMembers (ModelAttribute.all.map fun a ↦ (a.member, settings.attributeJson a))

/-- The settings of one kind in a record; null and absence leave them unset. -/
def readAction (r : JsonDocument.Record) (setting : ActionAttribute) :
    Option (Option (OrderedMap String)) :=
  r.defaulted setting.member none (JsonDocument.nullable? fun value ↦ value.map? JsonDocument.string?)

def ofDocument? (document : JsonDocument) : Option ModelSettings := do
  let r ← JsonDocument.Record.of? (ModelAttribute.all.map ModelAttribute.member) document
  let model ← r.defaulted ModelAttribute.model.member "" JsonDocument.string?
  let actions ← r.defaulted ModelAttribute.actions.member none
    (JsonDocument.nullable? fun value ↦ value.list? fun item ↦ item.string?.map ButtonId.mk)
  let actionWidth ← r.defaulted ModelAttribute.actionWidth.member none
    (JsonDocument.nullable? TagValue.ofDocument?)
  let searchDefaultCount ← r.defaulted ModelAttribute.searchDefaultCount.member none
    (JsonDocument.nullable? TagValue.ofDocument?)
  if ActionAttribute.all.all fun setting ↦ (readAction r setting).isSome then
    return ⟨model, actions, actionWidth, fun setting ↦ (readAction r setting).getD none,
      searchDefaultCount⟩
  else none

end ModelSettings

/-- The configuration of a model. -/
structure ModelConfig where
  /-- The name under which the configuration was asked for. -/
  model : String
  settings : ModelSettings
  fields : OrderedMap FieldConfig

namespace ModelConfig

def buttons (config : ModelConfig) : List ButtonId :=
  config.settings.actions.getD []

def toJson (config : ModelConfig) : Json :=
  .object [("model", .string config.model), ("global", config.settings.toJson),
    ("fields", .ofMap FieldConfig.toJson config.fields)]

def ofDocument? (document : JsonDocument) : Option ModelConfig := do
  let r ← JsonDocument.Record.of? ["model", "global", "fields"] document
  return {
    model := ← r.required "model" JsonDocument.string?
    settings := ← r.required "global" ModelSettings.ofDocument?
    fields := ← r.required "fields" fun value ↦ value.map? FieldConfig.ofDocument? }

end ModelConfig

end FieldTags
