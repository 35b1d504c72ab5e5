import FieldTags.Config.Model
import FieldTags.Text.Lowercase

/-!
# Permissions of buttons

A user holds permissions, which are texts. A model can map a button to the permission that it needs.
Without such an entry a built-in button needs the lowercase name of the model, a colon and its own
name, and a custom button needs something that nobody can hold: it is denied to everyone.
-/

namespace FieldTags

/-- The permissions that a user holds, as they were granted. -/
structure PermissionSet where
  /-- The permissions in the order in which they were granted, with repetitions. -/
  names : List String
  deriving DecidableEq

namespace PermissionSet

def empty : PermissionSet := ⟨[]⟩

def contains (permissions : PermissionSet) (name : String) : Bool :=
  permissions.names.contains name

def toJson (permissions : PermissionSet) : Json :=
  .array (permissions.names.map .string)

def ofDocument? (document : JsonDocument) : Option PermissionSet :=
  (document.list? JsonDocument.string?).map PermissionSet.mk

end PermissionSet

namespace ButtonId

/-- The permission that a button needs; none if nothing that can be held is enough. -/
def requiredPermission (b : ButtonId) (model : String) (mapped : Option (OrderedMap String)) :
    Option String :=
  match mapped.bind (·.find? b.bareName) with
  | some permission => some permission
  | none => if b.isCustom then none else some (Text.lowercase model ++ ":" ++ b.text)

def isAuthorized (b : ButtonId) (permissions : PermissionSet) (model : String)
    (mapped : Option (OrderedMap String)) : Bool :=
  match b.requiredPermission model mapped with
  | some permission => permissions.contains permission
  | none => false

def authorizationNotes (b : ButtonId) (model : String) (mapped : Option (OrderedMap String)) :
    List Note :=
  match b.requiredPermission model mapped with
  | some _ => []
  | none => [.unmappedButton model b.text]

/-- The buttons that permissions allow, in their order. -/
def filterAuthorized (permissions : PermissionSet) (buttons : List ButtonId) (model : String)
    (mapped : Option (OrderedMap String)) : List ButtonId :=
  buttons.filter fun b ↦ b.isAuthorized permissions model mapped

end ButtonId

end FieldTags
