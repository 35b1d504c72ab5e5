import FieldTags.Tag.Item
import FieldTags.Tag.Packed

/-!
# Attributes

What a tag can say about a field and about a model. Every attribute has the key under which tags
hold it; its member name in JSON and its name in notes are made of the words of the key. An
attribute of a field is of one of six kinds, which say what its value is and how it is read from the
value in a tag.
-/

namespace FieldTags

/-- The words of a key, which hyphens separate. -/
def keyWords (key : String) : List String :=
  Text.split '-' key

def capitalized (word : String) : String :=
  match word.toList with
  | [] => ""
  | c :: rest => String.ofList (c.toUpper :: rest)

/-- The name of a key in notes: its words, capitalized and run together. -/
def noteName (key : String) : String :=
  String.join ((keyWords key).map capitalized)

/-- The member name of a key in JSON: as in notes, but the first word stays as it is. -/
def memberName (key : String) : String :=
  match keyWords key with
  | [] => ""
  | word :: rest => String.join (word :: rest.map capitalized)

/-- The parameters of a request for options: pairs of names and texts, or a single scalar. -/
inductive ApiParams where
  | pairs (entries : OrderedMap String)
  | scalar (value : TagValue)
  deriving DecidableEq

namespace ApiParams

def toJson : ApiParams → Json
  | .pairs entries => .ofMap .string entries
  | .scalar value => value.toJson

def ofDocument? (document : JsonDocument) : Option ApiParams :=
  match document.map? JsonDocument.string? with
  | some entries => some (.pairs entries)
  | none => (TagValue.ofDocument? document).map .scalar

end ApiParams

/-- What the value of an attribute is. -/
inductive AttributeKind where
  /-- A text, which any scalar has. -/
  | text
  /-- A switch, which any scalar sets by its truth value. -/
  | flag
  /-- A number, or a text that is a number literal. -/
  | number
  | scalar
  | list
  | params
  deriving DecidableEq

namespace AttributeKind

@[reducible]
def Value : AttributeKind → Type
  | .text => String
  | .flag => Bool
  | .number => Binary64
  | .scalar => TagValue
  | .list => List String
  | .params => ApiParams

/-- The value that the scalar of a tag stands for, if it fits the kind. -/
def read : (kind : AttributeKind) → TagValue → Option kind.Value
  | .text, value => some value.toText
  | .flag, value => some value.isTruthy
  | .number, .bool _ => none
  | .number, .number x => some x
  | .number, .text s => Binary64.ofText? s
  | .scalar, value => some value
  | .list, .bool _ => none
  | .list, .number x => some [(TagValue.number x).toText]
  | .list, .text s => some (Packed.readList s)
  | .params, .text s => some (.pairs (Packed.readMap false s))
  | .params, value => some (.scalar value)

def toJson : (kind : AttributeKind) → kind.Value → Json
  | .text, s => .string s
  | .flag, b => .bool b
  | .number, x => .ofBinary64 x
  | .scalar, value => value.toJson
  | .list, items => .array (items.map .string)
  | .params, p => p.toJson

def ofDocument? : (kind : AttributeKind) → JsonDocument → Option kind.Value
  | .text, value => value.string?
  | .flag, value => value.bool?
  | .number, value => value.binary64?
  | .scalar, value => TagValue.ofDocument? value
  | .list, value => value.list? JsonDocument.string?
  | .params, value => ApiParams.ofDocument? value

end AttributeKind

/-- What a tag can say about a field. -/
inductive FieldAttribute where
  | label
  | sort
  | hidden
  | table
  | form
  | detail
  | emptyText
  | tooltip
  | default
  | placeholder
  | disabled
  | readonly
  | addHidden
  | editHidden
  | detailHidden
  | addDisabled
  | editDisabled
  | required
  | component
  | span
  | searchSpan
  | uiClass
  | tableClass
  | formClass
  | align
  | width
  | minWidth
  | ellipsis
  | formLabelWidth
  | options
  | api
  | apiParams
  | depend
  | labelKey
  | valueKey
  | apiMethod
  | loadingText
  | emptyOptionsText
  | search
  | operator
  | searchDefault
  | searchPlaceholder
  | multiple
  | rules
  | path
  | pathItem
  | mode
  | formatter
  deriving DecidableEq

namespace FieldAttribute

/-- All attributes of a field in the order in which they are written and reported. -/
def all : List FieldAttribute :=
  [.label, .sort, .hidden, .table, .form, .detail, .emptyText, .tooltip, .default, .placeholder,
    .disabled, .readonly, .addHidden, .editHidden, .detailHidden, .addDisabled, .editDisabled,
    .required, .component, .span, .searchSpan, .uiClass, .tableClass, .formClass, .align, .width,
    .minWidth, .ellipsis, .formLabelWidth, .options, .api, .apiParams, .depend, .labelKey,
    .valueKey, .apiMethod, .loadingText, .emptyOptionsText, .search, .operator, .searchDefault,
    .searchPlaceholder, .multiple, .rules, .path, .pathItem, .mode, .formatter]

def key : FieldAttribute → String
  | .label => "label"
  | .sort => "sort"
  | .hidden => "hidden"
  | .table => "table"
  | .form => "form"
  | .detail => "detail"
  | .emptyText => "empty-text"
  | .tooltip => "tooltip"
  | .default => "default"
  | .placeholder => "placeholder"
  | .disabled => "disabled"
  | .readonly => "readonly"
  | .addHidden => "add-hidden"
  | .editHidden => "edit-hidden"
  | .detailHidden => "detail-hidden"
  | .addDisabled => "add-disabled"
  | .editDisabled => "edit-disabled"
  | .required => "required"
  | .component => "type"
  | .span => "span"
  | .searchSpan => "search-span"
  | .uiClass => "ui-class"
  | .tableClass => "table-class"
  | .formClass => "form-class"
  | .align => "align"
  | .width => "width"
  | .minWidth => "min-width"
  | .ellipsis => "ellipsis"
  | .formLabelWidth => "form-label-width"
  | .options => "options"
  | .api => "api"
  | .apiParams => "api-params"
  | .depend => "depend"
  | .labelKey => "label-key"
  | .valueKey => "value-key"
  | .apiMethod => "api-method"
  | .loadingText => "loading-text"
  | .emptyOptionsText => "empty-options-text"
  | .search => "search"
  | .operator => "op"
  | .searchDefault => "search-default"
  | .searchPlaceholder => "search-placeholder"
  | .multiple => "multiple"
  | .rules => "rules"
  | .path => "path"
  | .pathItem => "path-item"
  | .mode => "mode"
  | .formatter => "formatter"

@[reducible]
def kind : FieldAttribute → AttributeKind
  | .sort | .minWidth => .number
  | .hidden | .table | .form | .detail | .readonly | .addHidden | .editHidden | .detailHidden
  | .required | .ellipsis | .search | .multiple => .flag
  | .default | .disabled | .addDisabled | .editDisabled | .span | .searchSpan | .width
  | .formLabelWidth | .searchDefault => .scalar
  | .depend => .list
  | .apiParams => .params
  | _ => .text

@[reducible]
def Value (a : FieldAttribute) : Type :=
  a.kind.Value

def ofKey? (key : String) : Option FieldAttribute :=
  all.find? (·.key = key)

def member (a : FieldAttribute) : String :=
  memberName a.key

end FieldAttribute

/-- The settings that a model makes for each of its buttons. -/
inductive ActionAttribute where
  | condition
  | label
  | icon
  | styleClass
  | permission
  | api
  | method
  | callback
  deriving DecidableEq

namespace ActionAttribute

/-- All settings of buttons in the order in which they are written and checked. -/
def all : List ActionAttribute :=
  [.condition, .label, .icon, .styleClass, .permission, .api, .method, .callback]

def key : ActionAttribute → String
  | .condition => "action-item-condition"
  | .label => "action-label"
  | .icon => "action-icon"
  | .styleClass => "action-class"
  | .permission => "action-permission"
  | .api => "action-api"
  | .method => "action-method"
  | .callback => "action-callback"

def member (a : ActionAttribute) : String :=
  memberName a.key

end ActionAttribute

/-- What a tag can say about a model. -/
inductive ModelAttribute where
  | model
  | actions
  | actionWidth
  | action (setting : ActionAttribute)
  | searchDefaultCount
  deriving DecidableEq

namespace ModelAttribute

/-- All attributes of a model in the order in which they are written and reported. -/
def all : List ModelAttribute :=
  [.model, .actions, .actionWidth] ++ ActionAttribute.all.map .action ++ [.searchDefaultCount]

def key : ModelAttribute → String
  | .model => "model"
  | .actions => "actions"
  | .actionWidth => "action-width"
  | .action setting => setting.key
  | .searchDefaultCount => "search-default-count"

/-- Whether an attribute holds a text for each of the buttons. -/
def isActionMap : ModelAttribute → Bool
  | .action _ => true
  | _ => false

def ofKey? (key : String) : Option ModelAttribute :=
  all.find? (·.key = key)

def member (a : ModelAttribute) : String :=
  memberName a.key

end ModelAttribute

end FieldTags
