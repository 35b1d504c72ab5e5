import FieldTags.Button.Permission
import FieldTags.Config.Assembly
import FieldTags.Service.Envelope
import FieldTags.Service.Message
import FieldTags.Service.Request

/-!
# Exchanges with the service

An exchange is a request together with the way in which the body of its reply is read. The service
has a path of its own for the rows of a model, for listing, adding, changing and deleting records and
for the permissions of the user; other paths come from configurations.
-/

namespace FieldTags

/-- What comes back for a request: a body, or the reason why there is none. -/
abbrev Reply := Except String String

/-- A request and the way in which the body of its reply is read. -/
structure Exchange (α : Type) where
  request : Request
  /-- What the body of a reply gives. -/
  read : String → Except ServiceError α

namespace Exchange

variable {α : Type}

def receive (x : Exchange α) : Reply → Except ServiceError α
  | .ok body => x.read body
  | .error reason => .error (.unreachable reason)

def notes (x : Exchange α) : List Note :=
  [.request x.request.method x.request.path]

/-- An exchange for the data of an envelope. -/
def forData (request : Request) (missing : α) (data? : JsonDocument → Option α) : Exchange α :=
  ⟨request, fun body ↦ (Envelope.decode missing data? body).map Envelope.data⟩

/-- An exchange for a whole envelope with free data. -/
def forEnvelope (request : Request) : Exchange (Envelope Json) :=
  ⟨request, Envelope.decode .null JsonDocument.value?⟩

def tags (model : String) : Exchange (List TagRow) :=
  forData (.get "/getuitag" [("model_name", model)]) [] (JsonDocument.list? TagRow.ofDocument?)

def permissions : Exchange PermissionSet :=
  forData (.get "/getpermissions" []) .empty PermissionSet.ofDocument?

def page (query : ListQuery) : Exchange RecordPage :=
  forData (.post "/getlist" query.toJson) .empty RecordPage.ofDocument?

def add (record : NewRecord) : Exchange (Envelope Json) :=
  forEnvelope (.post "/add" record.toJson)

def edit (record : ChangedRecord) : Exchange (Envelope Json) :=
  forEnvelope (.post "/edit" record.toJson)

def delete (records : DeletedRecords) : Exchange (Envelope Json) :=
  forEnvelope (.post "/del" records.toJson)

def options (path : String) (params : OrderedMap Json) (method : RequestMethod) :
    Exchange (List FieldOption) :=
  forData (.ofParams method path params.entries) [] (JsonDocument.list? FieldOption.ofDocument?)

/-- An exchange for a custom button, with data that is sorted by member. -/
def customAction (path : String) (data : List (String × Json)) (method : RequestMethod) :
    Exchange (Envelope Json) :=
  forEnvelope (.ofParams method path data)

end Exchange

end FieldTags
