import FieldTags.Config.View
import FieldTags.Display.Format

/-!
# Related items and table cells

A path of names and positions, separated by dots, leads into a row. The related items of a row are
the items of the array at the end of the path, each followed along a path of its own, or the single
value that is found there. Where nothing is found a cell shows the text for empty cells.

A cell shows the value of its field under the field's formatter; without one, the related items if
the field has a path or a mode; and otherwise the text of the value.
-/

namespace FieldTags

/-- The member or item that one segment of a path leads to. -/
def Json.follow? (value : Json) (segment : String) : Option Json :=
  match value with
  | .object members => members.lookup segment
  | .array items => (Text.readNatural? UInt64.size segment).bind fun i ↦ items[i]?
  | _ => none

def Json.atPath? (value : Json) (path : String) : Option Json :=
  (Text.split '.' path).foldlM Json.follow? value

def nonempty? (s : Option String) : Option String :=
  s.filter (· ≠ "")

/-- The text of an item of an array, found along a path of its own; blank items have none. -/
def relatedText? (item : Json) (itemPath : String) : Option String :=
  match item.atPath? itemPath with
  | some value => if Json.isBlank (some value) then none else some value.displayText
  | none => none

/-- The texts of the related items of a row, none if there are none. -/
def relatedItems? (row : Json) (path itemPath : Option String) : Option (List String) :=
  if !row.isTruthy then none
  else
    let target :=
      match nonempty? path with
      | some path => row.atPath? path
      | none => some row
    match target with
    | none => none
    | some (.array items) =>
      let texts :=
        match nonempty? itemPath with
        | some itemPath => items.filterMap fun item ↦ relatedText? item itemPath
        | none => items.map Json.displayText
      if texts = [] then none else some texts
    | some value => if Json.isBlank (some value) then none else some [value.displayText]

namespace Formatter

/-- Related items shown in a mode. The link of several items leads to the first. -/
def showItems (f : Formatter) (items : List String) (mode : RelationMode) (model : String) :
    DisplayValue :=
  match mode with
  | .flat => .text (f.settings.flatSeparator.intercalate items)
  | .tags => .tags items
  | .avatarGroup => .avatars items
  | .count => .text (toString items.length ++ f.settings.countUnit)
  | .link =>
    let first := items.headD ""
    .link (f.settings.linkTarget model first) first

/-- The related items of a row shown in a mode, or the placeholder if there are none. -/
def showRelation (f : Formatter) (row : Json) (path itemPath : Option String)
    (mode : RelationMode) (model : String) : DisplayValue :=
  match relatedItems? row path itemPath with
  | some items => f.showItems items mode model
  | none => f.placeholder

def emptyCell (f : Formatter) (field : FieldConfig) : DisplayValue :=
  match field .emptyText with
  | some text => .text text
  | none => f.placeholder

/-- Whether the field has a formatter that is not blank. -/
def hasFormatter (field : FieldConfig) : Bool :=
  (field .formatter).any fun s ↦ !Text.allBlank s

def cell (f : Formatter) (row : Json) (name : String) (field : FieldConfig) (model : String) :
    Except FormatError DisplayValue :=
  let raw := row.member? name
  if hasFormatter field then
    if Json.isBlank raw then .ok (f.emptyCell field) else f.formatValue raw (field .formatter)
  else if field.isRelation then
    match relatedItems? row (field .path) (field .pathItem) with
    | some items => .ok (f.showItems items field.relationMode model)
    | none => .ok (f.emptyCell field)
  else
    match raw with
    | some value =>
      if Json.isBlank raw then .ok (f.emptyCell field) else .ok (.text value.displayText)
    | none => .ok (f.emptyCell field)

def cellNotes (f : Formatter) (row : Json) (name : String) (field : FieldConfig) : List Note :=
  if hasFormatter field then f.formatNotes (row.member? name) (field .formatter) else []

/-- The cells of a row as plain texts. -/
def exportRow (f : Formatter) (row : Json) (fields : List (String × FieldConfig))
    (model : String) : Except FormatError (List String) :=
  fields.mapM fun field ↦
    (f.cell row field.1 field.2 model).map (DisplayValue.toPlainText f.settings.flatSeparator)

end Formatter

end FieldTags
