import FieldTags.Service.Exchange

/-!
# Stores

What has been fetched from the service is kept: the configurations of models until they are
invalidated, and the permissions of the user until they are cleared. A store fetches if it does not
have what it is asked for or if a refresh is forced, and a fetch that fails leaves it as it was. Every
object that a store hands out has a serial number, so that the same number means the same object.

The operations that may fetch are given the answer that the service would give. They look at it only
if they fetch.
-/

namespace FieldTags

/-- An object that a store hands out. -/
structure Kept (α : Type) where
  /-- The number of objects that the store had made before. -/
  serial : Nat
  value : α

/-! ## Configurations -/

/-- The configurations that have been fetched. -/
structure ConfigStore where
  /-- The configurations by the models for which they were fetched. -/
  entries : OrderedMap (Kept ModelConfig)
  /-- The number of configurations that have been made. -/
  made : Nat

namespace ConfigStore

def empty : ConfigStore := ⟨.empty, 0⟩

def size (s : ConfigStore) : Nat :=
  s.entries.size

def cached? (s : ConfigStore) (model : String) : Option (Kept ModelConfig) :=
  s.entries.find? model

/-- Whether asking for a configuration fetches its rows. -/
def fetches (s : ConfigStore) (model : String) (refresh : Bool) : Bool :=
  refresh || (s.cached? model).isNone

/-- The configuration that rows stand for, and the store that keeps it. -/
def keep (s : ConfigStore) (model : String) (rows : List TagRow) :
    Kept ModelConfig × ConfigStore :=
  let config := ⟨s.made, .assemble model rows⟩
  (config, ⟨s.entries.insert model config, s.made + 1⟩)

/-- The configuration of a model and the store after it has been asked for. -/
def get (s : ConfigStore) (model : String) (refresh : Bool)
    (fetched : Except ServiceError (List TagRow)) :
    Except ServiceError (Kept ModelConfig) × ConfigStore :=
  match if refresh then none else s.cached? model with
  | some config => (.ok config, s)
  | none =>
    match fetched with
    | .ok rows =>
      let (config, next) := s.keep model rows
      (.ok config, next)
    | .error e => (.error e, s)

/-- The store without the configuration of a model, or without any. -/
def invalidate (s : ConfigStore) : Option String → ConfigStore
  | some model => { s with entries := s.entries.erase model }
  | none => { s with entries := .empty }

def getNotes (s : ConfigStore) (model : String) (refresh : Bool)
    (fetched : Except ServiceError (List TagRow)) : List Note :=
  if s.fetches model refresh then
    (Exchange.tags model).notes ++
      match fetched with
      | .ok rows => ModelConfig.assembleNotes model rows ++ [.cachedConfig model]
      | .error _ => []
  else []

def invalidateNotes : Option String → List Note
  | some model => [.droppedConfig model]
  | none => [.droppedAllConfigs]

end ConfigStore

/-! ## Permissions -/

/-- The permissions that have been fetched. -/
structure PermissionStore where
  /-- The permissions, unless they have been cleared. -/
  current : Option (Kept PermissionSet)
  made : Nat

namespace PermissionStore

def empty : PermissionStore := ⟨none, 0⟩

def fetches (s : PermissionStore) (refresh : Bool) : Bool :=
  refresh || s.current.isNone

/--
The permissions and the store after they have been asked for. Where a fetch fails there are none, and
this is not kept.
-/
def get (s : PermissionStore) (refresh : Bool) (fetched : Except ServiceError PermissionSet) :
    Kept PermissionSet × PermissionStore :=
  match if refresh then none else s.current with
  | some permissions => (permissions, s)
  | none =>
    match fetched with
    | .ok permissions =>
      let kept := ⟨s.made, permissions⟩
      (kept, ⟨some kept, s.made + 1⟩)
    | .error _ => (⟨s.made, .empty⟩, { s with made := s.made + 1 })

/-- The store without permissions, as after a logout. -/
def clear (s : PermissionStore) : PermissionStore :=
  { s with current := none }

/-- Whether the permissions allow a button, and the store after they have been asked for. -/
def isAuthorized (s : PermissionStore) (b : ButtonId) (model : String)
    (mapped : Option (OrderedMap String)) (fetched : Except ServiceError PermissionSet) :
    Bool × PermissionStore :=
  let (permissions, next) := s.get false fetched
  (b.isAuthorized permissions.value model mapped, next)

def getNotes (s : PermissionStore) (refresh : Bool)
    (fetched : Except ServiceError PermissionSet) : List Note :=
  if s.fetches refresh then
    Exchange.permissions.notes ++
      match fetched with
      | .ok permissions => [.cachedPermissions permissions.names.length]
      | .error e => [.permissionsFailed e.message]
  else []

end PermissionStore

end FieldTags
