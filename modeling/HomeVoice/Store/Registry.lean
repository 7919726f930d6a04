import HomeVoice.Changeset
import HomeVoice.Codec.Device
import HomeVoice.Store.Tables

/-!
# The registry in the store

A changeset is committed row by row and all at once: either every row and the new version are
there afterwards or nothing is. Loading reads all types, then all locations and then all devices.
A type or a device that cannot be read is a failure of the database, a set of rows that makes no
registry is an inconsistency.
-/

namespace HomeVoice.Store

open Json (Decoder Value)

/-- A device type as it is stored. -/
def typeRow (entry : DeviceType × List Action) : String × String :=
  (entry.1.text, (Value.ofList Action.encode entry.2).text)

/-- The device type that a row holds. -/
def readTypeRow (row : String × String) : Except StorageError (DeviceType × List Action) :=
  match Name.ofText? row.1, Action.decode.list.ofText row.2 with
  | some name, .ok actions => .ok (name, actions)
  | _, _ => .error .database

/-- A device as it is stored. -/
def deviceRow (device : Device) : DeviceRow where
  enabled := if device.enabled then 1 else 0
  deviceType := device.deviceType.map (·.text)
  location := device.location.map (·.text)
  raw := device.raw.encode.text
  valueRange := device.valueRange.map fun range => range.encode.text

/-- A name in a row, which may be missing. -/
def readName? {kind : NameKind} (text : Option String) : Option (Option (Name kind)) :=
  text.mapM Name.ofText?

/-- The device that a row holds. -/
def readDeviceRow (row : String × DeviceRow) : Except StorageError Device :=
  let device : Option Device := do
    let id ← DeviceId.ofText? row.1
    let deviceType ← readName? row.2.deviceType
    let location ← readName? row.2.location
    let raw ← (Descriptor.decode.ofText row.2.raw).toOption
    let valueRange ← row.2.valueRange.mapM fun text => (ValueRange.decode.ofText text).toOption
    return { id, enabled := row.2.enabled != 0, deviceType, location, raw, valueRange }
  match device with
  | some device => .ok device
  | none => .error .database

/-- The location that a row holds. -/
def readLocationRow (text : String) : Except StorageError Location :=
  match Name.ofText? text with
  | some name => .ok name
  | none => .error .inconsistent

namespace Tables

/-- The stored registry; none before the first commit. -/
def load (tables : Tables) : Except StorageError (Option Registry) := do
  let some version := tables.version | return none
  let types ← tables.deviceTypes.entries.mapM readTypeRow
  let devices ← tables.devices.entries.mapM readDeviceRow
  let locations ← tables.locations.keys.mapM readLocationRow
  if version < 0 then throw .versionOutOfRange
  match Registry.restore (UInt64.ofNat version.toNat) types locations devices with
  | .ok registry => return some registry
  | .error _ => throw .inconsistent

/-- Write the rows of a changeset and its version. -/
def commit (tables : Tables) (changes : Changeset) : Except StorageError Tables := do
  let version ← storedVersion changes.version
  return { tables with
    version := some version
    deviceTypes := changes.customTypes.foldl (fun rows entry =>
      rows.insert (typeRow entry).1 (typeRow entry).2) tables.deviceTypes
    locations := changes.locations.foldl (fun rows location => rows.add location.text)
      tables.locations
    devices := changes.devices.foldl (fun rows device =>
      rows.insert device.id.text (deviceRow device)) tables.devices }

end Tables

end HomeVoice.Store
