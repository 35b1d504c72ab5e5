import FieldTags.Display.Cell

/-!
# Tables of plain text

A table has a line of captions and a line for every row of data. Tab characters separate the cells of
a line.
-/

namespace FieldTags

/-- The columns of the table of a model: its fields for tables with their names. -/
def ModelConfig.tableColumns (config : ModelConfig) : List (String × FieldConfig) :=
  config.fieldsFor .table

namespace Formatter

/-- The cells of a row as a JSON object, by the names of their fields. -/
def rowJson (f : Formatter) (config : ModelConfig) (row : Json) : Except FormatError Json := do
  let cells ← config.tableColumns.mapM fun column ↦
    (f.cell row column.1 column.2 config.model).map fun cell ↦ (column.1, cell.toJson)
  return (Json.object cells).canonical

def tableHead (config : ModelConfig) : String :=
  "\t".intercalate (config.tableColumns.map fun column ↦ column.2.caption column.1)

def tableLine (f : Formatter) (config : ModelConfig) (row : Json) : Except FormatError String :=
  (f.exportRow row config.tableColumns config.model).map "\t".intercalate

def tableText (f : Formatter) (config : ModelConfig) (rows : List Json) :
    Except FormatError String := do
  let lines ← rows.mapM (f.tableLine config)
  return "\n".intercalate (tableHead config :: lines)

end Formatter

end FieldTags
