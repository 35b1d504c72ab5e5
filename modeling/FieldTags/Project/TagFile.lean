import FieldTags.Config.Assembly
import FieldTags.Project.Path
import FieldTags.Service.Envelope

/-!
# Tag files

A tag file holds the rows of a model, either as a list or as the data of an envelope such as the
service sends. The name of the file is the name of the model.
-/

namespace FieldTags

/-- The rows of a model and where they are from. -/
structure TagFile where
  path : String
  model : String
  rows : List TagRow
  deriving DecidableEq

namespace TagFile

/-- How the names of tag files end. -/
def ending : String := ".tags.json"

def modelName (path : String) : String :=
  let name := Path.fileName path
  (Path.dropEnding? ending name).getD (Path.stem name)

def rows? (document : JsonDocument) : Option (List TagRow) :=
  document.list? TagRow.ofDocument?

/-- The rows in the text of a file, of which every part has to have a value. -/
def readRows (text : String) : Except ServiceError (List TagRow) :=
  match (Json.readDocument text).bind JsonDocument.whole? with
  | none => .error .malformed
  | some document =>
    match rows? document with
    | some rows => .ok rows
    | none =>
      match Envelope.ofDocument? [] rows? document with
      | some envelope => envelope.result
      | none => .error .malformed

end TagFile

end FieldTags
