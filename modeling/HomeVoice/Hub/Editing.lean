import HomeVoice.Import
import HomeVoice.Storage

/-!
# Editing the registry through a store

An edit works on the published registry. If it changes something, the changes are committed first
and the new registry is published only then, so an edit that fails, and a commit that fails, leave
both the store and the published registry as they were.
-/

namespace HomeVoice.Hub

/-- A change of a registry with an answer. -/
abbrev Edit (α : Type) := Registry → Except Error (α × Registry)

/-- The edits that the hub offers. -/
inductive RegistryEdit where
  | upsertDevice (device : Device)
  | setEnabled (id : DeviceId) (enabled : Bool)
  | assign (id : DeviceId) (deviceType : DeviceType) (location : Location)
  | addDeviceType (deviceType : DeviceType) (actions : List Action)
  | addLocation (location : Location)
  | importDevices (batch : List ImportedDevice)

namespace RegistryEdit

/-- What an edit answers. -/
abbrev Answer : RegistryEdit → Type
  | upsertDevice _ | setEnabled _ _ | assign _ _ _ => Device
  | addDeviceType _ _ => Unit
  | addLocation _ => Bool
  | importDevices _ => ImportReport

/-- The change that an edit makes. A batch is imported in one edit. -/
def run : (edit : RegistryEdit) → Edit edit.Answer
  | upsertDevice device => fun registry =>
    (registry.upsert device).mapError .configuration |>.map (device, ·)
  | setEnabled id enabled => (·.setEnabled id enabled)
  | assign id deviceType location => (·.assign id deviceType location)
  | addDeviceType deviceType actions => fun registry =>
    (registry.addType deviceType actions).mapError .configuration |>.map ((), ·)
  | addLocation location => fun registry => .ok (registry.addLocation location)
  | importDevices batch => fun registry =>
    (registry.importBatch batch).mapError .configuration |>.map fun done => (done.2, done.1)

end RegistryEdit

/-- The answer of an edit, the registry to be published and the store after the commit. -/
def applyEdit {σ α : Type} [Storage σ] (store : σ) (current : Registry) (edit : Edit α) :
    Except Error (α × Registry × σ) := do
  let (answer, next) ← edit current
  if next.version = current.version then return (answer, current, store)
  else
    let store ← (Storage.commit store (.between current next)).mapError .storage
    return (answer, next, store)

end HomeVoice.Hub
