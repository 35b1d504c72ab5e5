import FieldTags.Button.Permission
import FieldTags.Expression.Template

/-!
# Buttons of a row

A user sees those of the declared buttons that the permissions allow and whose condition holds for
the row. Authorization fails closed and conditions fail open. What is seen of a button is made of
the settings of the model for it: a caption, which is otherwise that of the built-in button or the
name itself, the request that it sends, and more.
-/

namespace FieldTags

/-- A button as a user sees it. -/
structure ButtonAction where
  id : ButtonId
  label : String
  icon : Option String
  styleClass : Option String
  /-- The path of the request that it sends. -/
  api : Option String
  method : RequestMethod
  /-- The name of the function that it calls. -/
  callback : Option String
  deriving DecidableEq

namespace ButtonAction

/-- A button with the settings that a model makes for it. -/
def ofSettings (settings : ModelSettings) (b : ButtonId) : ButtonAction :=
  let find (setting : ActionAttribute) := (settings.action setting).bind (·.find? b.bareName)
  { id := b
    label := (find .label).getD ((b.builtIn?.map BuiltInButton.label).getD b.bareName)
    icon := find .icon
    styleClass := find .styleClass
    api := find .api
    method := ((find .method).bind RequestMethod.read).getD .post
    callback := find .callback }

def toJson (a : ButtonAction) : Json :=
  .ofOptionalMembers [("id", some (.string a.id.text)), ("label", some (.string a.label)),
    ("icon", a.icon.map .string), ("class", a.styleClass.map .string),
    ("api", a.api.map .string), ("method", some (.string a.method.name)),
    ("callback", a.callback.map .string)]

def ofDocument? (document : JsonDocument) : Option ButtonAction := do
  let r ← JsonDocument.Record.of? ["id", "label", "icon", "class", "api", "method", "callback"] document
  return {
    id := ⟨← r.required "id" JsonDocument.string?⟩
    label := ← r.required "label" JsonDocument.string?
    icon := ← r.optional "icon" JsonDocument.string?
    styleClass := ← r.optional "class" JsonDocument.string?
    api := ← r.optional "api" JsonDocument.string?
    method := ← r.required "method" (JsonDocument.choice? RequestMethod.ofName?)
    callback := ← r.optional "callback" JsonDocument.string? }

end ButtonAction

namespace ButtonId

def condition? (b : ButtonId) (conditions : Option (OrderedMap String)) : Option String :=
  conditions.bind (·.find? b.bareName)

/-- Whether the condition of a button, if it has one, holds for a row. -/
def isShown (b : ButtonId) (row : Option Json) (conditions : Option (OrderedMap String)) : Bool :=
  match b.condition? conditions with
  | some condition => Condition.holds condition row
  | none => true

end ButtonId

def ButtonId.conditionNotes (b : ButtonId) (row : Option Json)
    (conditions : Option (OrderedMap String)) : List Note :=
  match b.condition? conditions with
  | some condition => Condition.notes condition row
  | none => []

namespace ModelConfig

/-- The buttons that a user sees on a row, in the order of their declaration. -/
def visibleButtons (config : ModelConfig) (permissions : PermissionSet) (row : Option Json) :
    List ButtonAction :=
  let allowed := ButtonId.filterAuthorized permissions config.buttons config.model
    (config.settings.action .permission)
  (allowed.filter fun b ↦ b.isShown row (config.settings.action .condition)).map
    (ButtonAction.ofSettings config.settings)

def visibleButtonsNotes (config : ModelConfig) (permissions : PermissionSet)
    (row : Option Json) : List Note :=
  let mapped := config.settings.action .permission
  let allowed := ButtonId.filterAuthorized permissions config.buttons config.model mapped
  config.buttons.flatMap (·.authorizationNotes config.model mapped) ++
    allowed.flatMap (·.conditionNotes row (config.settings.action .condition))

end ModelConfig

end FieldTags
