import FieldTags.Text.Split
import FieldTags.Vocabulary

/-!
# Buttons

A button is known by a text: the name of a built-in button, or `custom:` and a name of its own. The
settings of a model name it without `custom:`.
-/

namespace FieldTags

/-- The text by which a button is declared. -/
structure ButtonId where
  /-- The whole text. -/
  text : String
  deriving DecidableEq

namespace ButtonId

/-- What marks a button of the model's own. -/
def customMark : String := "custom:"

/-- The name behind the mark of a custom button; other buttons have none. -/
def customName? (b : ButtonId) : Option String :=
  if customMark.toList.isPrefixOf b.text.toList then
    some (String.ofList (b.text.toList.drop customMark.length))
  else none

def isCustom (b : ButtonId) : Bool :=
  b.customName?.isSome

/-- The name under which the settings of a model know a button. -/
def bareName (b : ButtonId) : String :=
  b.customName?.getD b.text

def builtIn? (b : ButtonId) : Option BuiltInButton :=
  BuiltInButton.ofName? b.text

end ButtonId

end FieldTags
