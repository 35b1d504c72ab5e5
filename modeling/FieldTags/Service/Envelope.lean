import FieldTags.Json.Reader
import FieldTags.Json.Record

/-!
# Envelopes

The body of every reply is an envelope: a code, which is zero for success, data and a message for
the user. The code is looked at before the data, so that the message of a failure is never lost to
data of an unexpected form. Success with null for data stands for the default of the data.
-/

namespace FieldTags

/-- Why a request gives no data. -/
inductive ServiceError where
  /-- The envelope has a code that is not zero. -/
  | rejected (code : Int64) (message : String)
  | unreachable (reason : String)
  /-- The body is no envelope, or its data is not what was asked for. -/
  | malformed
  deriving DecidableEq

namespace ServiceError

def message : ServiceError → String
  | .rejected code message =>
    "request rejected (code " ++ toString code.toInt ++ "): " ++ message
  | .unreachable reason => "transport failure: " ++ reason
  | .malformed => "malformed response"

/-- The text of an error for the user: the message of the reply, if there is one. -/
def userMessage : ServiceError → String
  | .rejected _ message => if message = "" then "请求失败" else message
  | .unreachable _ | .malformed => "网络请求失败，请稍后重试"

end ServiceError

/-- The body of a reply. -/
structure Envelope (α : Type) where
  /-- The code, which is zero for success. -/
  code : Int64
  data : α
  message : String
  deriving DecidableEq

namespace Envelope

variable {α : Type}

def toJson (dataJson : α → Json) (e : Envelope α) : Json :=
  .object [("code", .ofInt e.code.toInt), ("data", dataJson e.data), ("msg", .string e.message)]

def code? (value : JsonDocument) : Option Int64 :=
  (value.int? minInt64 maxInt64).map .ofInt

/-- The envelope that a document holds, in which the data may be missing. -/
def ofDocument? (missing : α) (data? : JsonDocument → Option α) (document : JsonDocument) :
    Option (Envelope α) := do
  let r ← JsonDocument.Record.of? ["code", "data", "msg"] document
  return {
    code := ← r.required "code" code?
    data := ← r.defaulted "data" missing data?
    message := ← r.defaulted "msg" "" JsonDocument.string? }

/-- An envelope is read from what the document says about its three fields. -/
theorem ofDocument?_of_record {r : JsonDocument.Record} {document : JsonDocument}
    (h : JsonDocument.Record.of? ["code", "data", "msg"] document = some r) (missing : α)
    (data? : JsonDocument → Option α) :
    ofDocument? missing data? document =
      (r.required "code" code?).bind fun code ↦
        (r.defaulted "data" missing data?).bind fun data ↦
          (r.defaulted "msg" "" JsonDocument.string?).bind fun message ↦
            some ⟨code, data, message⟩ := by
  rw [ofDocument?, h]
  rfl

/-- The envelope with free data that a document holds. -/
def free? (document : JsonDocument) : Option (Envelope Json) :=
  ofDocument? .null JsonDocument.freeValue? document

/-- An envelope of success; any other is the error that it reports. -/
def checked (e : Envelope α) : Except ServiceError (Envelope α) :=
  if e.code = 0 then .ok e else .error (.rejected e.code e.message)

def result (e : Envelope α) : Except ServiceError α :=
  e.checked.map Envelope.data

/-- The same envelope with its free data read. -/
def readData (missing : α) (data? : JsonDocument → Option α) (e : Envelope Json) :
    Except ServiceError (Envelope α) :=
  match e.data with
  | .null => .ok ⟨e.code, missing, e.message⟩
  | data =>
    match data? (.ofValue data) with
    | some data => .ok ⟨e.code, data, e.message⟩
    | none => .error .malformed

/-- The envelope of success in the body of a reply. -/
def decode (missing : α) (data? : JsonDocument → Option α) (body : String) :
    Except ServiceError (Envelope α) :=
  match (Json.readDocument body).bind free? with
  | none => .error .malformed
  | some e => e.checked.bind (readData missing data?)

end Envelope

end FieldTags
