import FieldTags.Config.Model
import FieldTags.Expression.Template

/-!
# Configurations in use

The defaults of a field's attributes, the values that depend on a scope, and the fields of a form. An
attribute with a word outside of its vocabulary counts as unset. The fields of a form are those that
are visible in it, by their weight and, for equal weights, in the order of their declaration.
-/

namespace FieldTags

namespace TagValue

/-- The number that a scalar stands for; truth values stand for none. -/
def number? : TagValue → Option Binary64
  | .bool _ => none
  | .number x => some x
  | .text s => Binary64.ofText? s

/-- What a scalar gives in a scope: itself, or the value of the template that it is. -/
def inScope (scope : Scope) : TagValue → Option Json
  | .text s => Template.evaluate scope s
  | value => some value.toData

def scopeNotes (scope : Scope) : TagValue → List Note
  | .text s => Template.notes scope s
  | _ => []

end TagValue

namespace FieldConfig

/-- The caption of a field, which is its name if none is set. -/
def caption (config : FieldConfig) (name : String) : String :=
  (config .label).getD name

/-- The weight by which fields are sorted, which is 99 if none is set. -/
def weight (config : FieldConfig) : Binary64 :=
  (config .sort).getD (.ofNat 99)

/-- The input component, which is `UInput` if none is set. -/
def component (config : FieldConfig) : String :=
  (config .component).getD "UInput"

/-- The width in a form, of 24 columns. -/
def formSpan (config : FieldConfig) : Binary64 :=
  ((config .span).bind TagValue.number?).getD (.ofNat 24)

/-- The width in the search form, of 24 columns. -/
def searchSpan (config : FieldConfig) : Binary64 :=
  ((config .searchSpan).bind TagValue.number?).getD (.ofNat 6)

def relationMode (config : FieldConfig) : RelationMode :=
  ((config .mode).bind RelationMode.ofName?).getD .flat

def searchOperator (config : FieldConfig) : SearchOperator :=
  ((config .operator).bind SearchOperator.ofName?).getD .eq

def optionsMethod (config : FieldConfig) : RequestMethod :=
  ((config .apiMethod).bind RequestMethod.read).getD .get

def alignment (config : FieldConfig) : Alignment :=
  ((config .align).bind Alignment.ofName?).getD .left

/-- The member of an option that holds its caption. -/
def labelKey (config : FieldConfig) : String :=
  (config .labelKey).getD "label"

/-- The member of an option that holds its value. -/
def valueKey (config : FieldConfig) : String :=
  (config .valueKey).getD "value"

def loadingText (config : FieldConfig) : String :=
  (config .loadingText).getD "加载中..."

def emptyOptionsText (config : FieldConfig) : String :=
  (config .emptyOptionsText).getD "暂无数据"

/-- Whether the field shows related items: a path or a mode is set, and not to the empty text. -/
def isRelation (config : FieldConfig) : Bool :=
  (config .path).any (· ≠ "") || (config .mode).any (· ≠ "")

def isVisible (config : FieldConfig) : FormMode → Bool
  | .add => (config .form).getD true && !(config .addHidden).getD false
  | .edit => (config .form).getD true && !(config .editHidden).getD false
  | .detail => (config .detail).getD true && !(config .detailHidden).getD false
  | .table => (config .table).getD true
  | .search => (config .search).getD false

def defaultValue (config : FieldConfig) (scope : Scope) : Option Json :=
  (config .default).bind (TagValue.inScope scope)

def searchDefault (config : FieldConfig) (scope : Scope) : Option Json :=
  (config .searchDefault).bind (TagValue.inScope scope)

/-- What disables the field in a form: the setting for this form, or else the general one. -/
def disabling (config : FieldConfig) (mode : FormMode) : Option TagValue :=
  match mode with
  | .add => config .addDisabled <|> config .disabled
  | .edit => config .editDisabled <|> config .disabled
  | _ => config .disabled

/-- Whether the field takes no input in a form; a field for reading only never does. -/
def isDisabled (config : FieldConfig) (mode : FormMode) (scope : Scope) : Bool :=
  config .readonly = some true ||
    ((config.disabling mode).bind (TagValue.inScope scope)).any Json.isTruthy

/-- The parameters of the request for options; those that give nothing are left out. -/
def requestParams (config : FieldConfig) (scope : Scope) : List (String × Json) :=
  match config .apiParams with
  | some (.pairs entries) =>
    entries.entries.filterMap fun entry ↦
      (Template.evaluate scope entry.2).map fun value ↦ (entry.1, value)
  | _ => []

def scalarNotes (value : Option TagValue) (scope : Scope) : List Note :=
  (value.map (TagValue.scopeNotes scope)).getD []

def disablingNotes (config : FieldConfig) (mode : FormMode) (scope : Scope) : List Note :=
  if config .readonly = some true then [] else scalarNotes (config.disabling mode) scope

def requestParamsNotes (config : FieldConfig) (scope : Scope) : List Note :=
  match config .apiParams with
  | some (.pairs entries) => entries.entries.flatMap fun entry ↦ Template.notes scope entry.2
  | _ => []

end FieldConfig

namespace ModelConfig

/-- The fields of a form with their names. -/
def fieldsFor (config : ModelConfig) (mode : FormMode) : List (String × FieldConfig) :=
  (config.fields.entries.filter fun entry ↦ entry.2.isVisible mode).mergeSort fun a b ↦
    a.2.weight.totalPosition ≤ b.2.weight.totalPosition

/-- The width of the column of buttons, which is 150 unless another number but zero is set. -/
def actionWidth (config : ModelConfig) : Binary64 :=
  match config.settings.actionWidth.bind TagValue.number? with
  | some x => if x.isZero then .ofNat 150 else x
  | none => .ofNat 150

/-- The number of search fields that are shown at first, which is 3 unless a positive number is set. -/
def searchDefaultCount (config : ModelConfig) : Nat :=
  let count :=
    match config.settings.searchDefaultCount.bind TagValue.number? with
    | some x => if Binary64.less (.ofNat 0) x then x else .ofNat 3
    | none => .ofNat 3
  (count.clampToInt 0 maxUInt64).toNat

end ModelConfig

end FieldTags
