import FieldTags.Config.Attribute
import FieldTags.Expression.Error
import FieldTags.Text.Quoted
import FieldTags.Vocabulary

/-!
# Notes

What the library would like a maintainer to know about its work. A note never changes a result.
Where a function has something to note, a second function beside it lists the notes in the order in
which they arise.
-/

namespace FieldTags

/-- How much a note matters. -/
inductive NoteLevel where
  | error
  | warn
  | info
  | debug
  deriving DecidableEq

def NoteLevel.name : NoteLevel → String
  | .error => "ERROR"
  | .warn => "WARN"
  | .info => "INFO"
  | .debug => "DEBUG"

/-- Something worth knowing about the work of the library. -/
inductive Note where
  /-- An item of a tag was left out because it has no key. -/
  | keylessItem (item : String)
  /-- A switch was set by something else than a truth value. -/
  | readByTruthiness (value : TagValue) (key : FieldAttribute)
  /-- A value was left out because it is no number. -/
  | notNumeric (value : TagValue) (key : FieldAttribute)
  /-- A list was left out because a flag stood for it. -/
  | flagForList
  /-- The settings of buttons were left out because they are no text. -/
  | settingsNotText (value : TagValue) (setting : ActionAttribute)
  /-- The buttons were left out because they are no text. -/
  | buttonsNotText (value : TagValue)
  /-- A row of a field was left out because the field is hidden. -/
  | hiddenField (model field : String)
  | assembled (model : String) (fields buttons : Nat)
  | templateFailed (body : String) (error : ExpressionError)
  /-- A condition failed, so the button is shown. -/
  | conditionFailed (source : String) (error : ExpressionError)
  | unregisteredFormatter (name : Option String)
  | unknownFormatter (kind : String)
  /-- A custom button was denied because nothing says which permission it needs. -/
  | unmappedButton (model button : String)
  | request (method : RequestMethod) (path : String)
  | cachedConfig (model : String)
  | droppedConfig (model : String)
  | droppedAllConfigs
  | cachedPermissions (count : Nat)
  | permissionsFailed (reason : String)
  deriving DecidableEq

namespace Note

def level : Note → NoteLevel
  | .permissionsFailed _ => .error
  | .templateFailed _ _ | .conditionFailed _ _ | .unmappedButton _ _ => .warn
  | .assembled _ _ _ | .cachedConfig _ | .droppedConfig _ | .droppedAllConfigs
  | .cachedPermissions _ => .info
  | _ => .debug

/-- A text in quotes, or the absence of one. -/
def optionText : Option String → String
  | none => "None"
  | some s => "Some(" ++ Text.quoted s ++ ")"

def message : Note → String
  | .keylessItem item => "dropping tag item without key: " ++ Text.quoted item
  | .readByTruthiness value a =>
    "reading " ++ value.noteText ++ " for " ++ noteName a.key ++ " by truthiness"
  | .notNumeric value a =>
    "ignoring non-numeric value " ++ value.noteText ++ " for " ++ noteName a.key
  | .flagForList => "ignoring boolean depend value"
  | .settingsNotText value setting =>
    "ignoring non-string value " ++ value.noteText ++ " for " ++ setting.key
  | .buttonsNotText value => "ignoring non-string actions value " ++ value.noteText
  | .hiddenField model field => model ++ "." ++ field ++ ": hidden, skipped"
  | .assembled model fields buttons =>
    "assembled " ++ model ++ ": " ++ toString fields ++ " fields, " ++ toString buttons ++
      " actions"
  | .templateFailed body error =>
    "expression " ++ Text.quoted body ++ " failed: " ++ error.message
  | .conditionFailed source error =>
    "condition " ++ Text.quoted source ++ " failed, showing button: " ++ error.message
  | .unregisteredFormatter name =>
    "custom formatter " ++ optionText name ++ " not registered"
  | .unknownFormatter kind => "unknown formatter type " ++ Text.quoted kind
  | .unmappedButton model button =>
    model ++ ": custom button " ++ button ++ " has no action-permission entry, denied"
  | .request method path => method.name ++ " " ++ path
  | .cachedConfig model => "cached configuration for " ++ model
  | .droppedConfig model => "invalidated configuration for " ++ model
  | .droppedAllConfigs => "invalidated all cached configuration"
  | .cachedPermissions count => "cached " ++ toString count ++ " permissions"
  | .permissionsFailed reason => "permission fetch failed: " ++ reason

end Note

end FieldTags
