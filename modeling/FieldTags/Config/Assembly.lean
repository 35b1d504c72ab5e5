import FieldTags.Config.Model

/-!
# Assembling configurations

The configuration of a model comes in rows of a field name and a tag. Rows with the reserved name
`UIConfig` carry settings of the model and are laid over each other in their order; the other rows
carry fields. A row that hides its field is skipped. At the end, defaults stand in for an action
width and a search count that are missing or count as false.
-/

namespace FieldTags

/-- A field name and the tag that is declared for it. -/
structure TagRow where
  /-- The name of the field, or the name that is reserved for the settings of the model. -/
  field : String
  tag : String
  deriving DecidableEq

namespace TagRow

/-- The name that is reserved for the settings of the model. -/
def settingsField : String := "UIConfig"

def isSettings (row : TagRow) : Bool :=
  row.field == settingsField

def toJson (row : TagRow) : Json :=
  .object [("field", .string row.field), ("tag", .string row.tag)]

def ofDocument? (document : JsonDocument) : Option TagRow := do
  let r ← JsonDocument.Record.of? ["field", "tag"] document
  return ⟨← r.required "field" JsonDocument.string?, ← r.required "tag" JsonDocument.string?⟩

end TagRow

namespace ModelConfig

def start (model : String) : ModelConfig :=
  ⟨model, { ModelSettings.empty with model := model }, .empty⟩

def addRow (config : ModelConfig) (row : TagRow) : ModelConfig :=
  let tag := Tag.read row.tag
  if row.isSettings then
    { config with settings := config.settings.overlay (.ofTag tag) }
  else
    let field := FieldConfig.ofTag tag
    if field .hidden = some true then config
    else { config with fields := config.fields.insert row.field field }

/-- The configuration that the rows of a model stand for. -/
def assemble (model : String) (rows : List TagRow) : ModelConfig :=
  let config := rows.foldl addRow (start model)
  { config with settings := config.settings.withDefaults }

def tagNotes (tag : String) : List Note :=
  (Tag.keylessItems tag).map .keylessItem

def rowNotes (model : String) (row : TagRow) : List Note :=
  let tag := Tag.read row.tag
  tagNotes row.tag ++
    if row.isSettings then ModelSettings.ofTagNotes tag
    else
      FieldConfig.ofTagNotes tag ++
        if FieldConfig.ofTag tag .hidden = some true then [.hiddenField model row.field] else []

def assembleNotes (model : String) (rows : List TagRow) : List Note :=
  let config := assemble model rows
  rows.flatMap (rowNotes model) ++
    [.assembled model config.fields.size config.buttons.length]

end ModelConfig

end FieldTags
