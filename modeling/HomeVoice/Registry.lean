import HomeVoice.Device
import HomeVoice.Error

/-!
# The registry of devices

The registry holds every known device and the open sets of device types, each with its vocabulary,
and of locations. Which types were declared and are not built in is kept beside the vocabularies.
Every edit that changes something raises the version by one, and no edit removes a type or a
location. Two devices may stand under one pair; that is looked at only when a grammar is generated.
-/

namespace HomeVoice

/-- The device types that a new registry knows, with their vocabularies. -/
def builtinTypes : SortedMap DeviceType (List Action) :=
  .ofList (builtinVocabularies.filterMap fun line =>
    (Name.ofText? line.1).map fun name => (name, line.2))

/-- The known devices, types and locations. -/
structure Registry where
  version : UInt64
  devices : SortedMap DeviceId Device
  /-- All known types, the built-in ones included. -/
  deviceTypes : SortedMap DeviceType (List Action)
  /-- The types that were declared. -/
  customTypes : SortedSet DeviceType
  locations : SortedSet Location
  deriving BEq

namespace Registry

/-- A registry that knows nothing but the built-in types. -/
def empty : Registry := ⟨0, .empty, builtinTypes, .empty, .empty⟩

instance : Inhabited Registry := ⟨empty⟩

/-- The device with this identifier. -/
def get? (registry : Registry) (id : DeviceId) : Option Device := registry.devices.get? id

/-- The enabled devices in the order of their identifiers. -/
def enabledDevices (registry : Registry) : List Device :=
  registry.devices.values.filter (·.enabled)

/-- The vocabulary of a known device type. -/
def vocabulary (registry : Registry) (deviceType : DeviceType) : Option (List Action) :=
  registry.deviceTypes.get? deviceType

/-- The types that were declared, with their vocabularies. -/
def declaredTypes (registry : Registry) : SortedMap DeviceType (List Action) :=
  registry.deviceTypes.filter fun deviceType _ => registry.customTypes.contains deviceType

def knowsType (registry : Registry) (deviceType : DeviceType) : Bool :=
  registry.deviceTypes.contains deviceType

def knowsLocation (registry : Registry) (location : Location) : Bool :=
  registry.locations.contains location

/-- The registry after a change. -/
def bump (registry : Registry) : Registry := { registry with version := registry.version + 1 }

/-- The type and the location of a device, where it has them, are known. -/
def checkMembership (registry : Registry) (device : Device) : Except ConfigurationError Unit := do
  if let some deviceType := device.deviceType then
    unless registry.knowsType deviceType do throw (.unknownType deviceType)
  if let some location := device.location then
    unless registry.knowsLocation location do throw (.unknownLocation location)

/-- The registry with a device in the place of the one with its identifier. -/
def put (registry : Registry) (device : Device) : Registry :=
  { registry with devices := registry.devices.insert device.id device }

/-- Insert or replace a device. A device that is as it was changes nothing. -/
def upsert (registry : Registry) (device : Device) : Except ConfigurationError Registry := do
  registry.checkMembership device
  if registry.get? device.id == some device then return registry
  else return (registry.put device).bump

/-- Enable or disable a device. -/
def setEnabled (registry : Registry) (id : DeviceId) (enabled : Bool) :
    Except Error (Device × Registry) :=
  match registry.get? id with
  | none => .error (.noDevice id)
  | some device =>
    let changed := { device with enabled }
    .ok (changed, if device.enabled = enabled then registry else (registry.put changed).bump)

/-- Give a device a type and a location. Other devices may have the same ones. -/
def assign (registry : Registry) (id : DeviceId) (deviceType : DeviceType) (location : Location) :
    Except Error (Device × Registry) := do
  unless registry.knowsType deviceType do throw (.configuration (.unknownType deviceType))
  unless registry.knowsLocation location do throw (.configuration (.unknownLocation location))
  match registry.get? id with
  | none => throw (.noDevice id)
  | some device =>
    let changed := { device with deviceType := some deviceType, location := some location }
    let same := device.deviceType = some deviceType ∧ device.location = some location
    return (changed, if same then registry else (registry.put changed).bump)

/-- The registry with a declared type and its vocabulary. -/
def declare (registry : Registry) (deviceType : DeviceType) (actions : List Action) : Registry :=
  { registry with
    customTypes := registry.customTypes.add deviceType
    deviceTypes := registry.deviceTypes.insert deviceType actions }

/-- The registry with one more device type; repeated actions are dropped. -/
def insertType (registry : Registry) (deviceType : DeviceType) (actions : List Action) :
    Except ConfigurationError Registry :=
  if registry.knowsType deviceType then .error (.duplicateType deviceType)
  else if actions.isEmpty then .error (.emptyVocabulary deviceType)
  else .ok (registry.declare deviceType (Action.distinct actions))

/-- Declare a device type with its vocabulary. -/
def addType (registry : Registry) (deviceType : DeviceType) (actions : List Action) :
    Except ConfigurationError Registry := do
  return (← registry.insertType deviceType actions).bump

/-- Declare a location; whether it is new. -/
def addLocation (registry : Registry) (location : Location) : Bool × Registry :=
  if registry.knowsLocation location then (false, registry)
  else (true, { registry with locations := registry.locations.add location }.bump)

/-- A registry of given parts: types and locations first, then the devices that refer to them. -/
def restore (version : UInt64) (types : List (DeviceType × List Action))
    (locations : List Location) (devices : List Device) : Except ConfigurationError Registry := do
  let withTypes ← types.foldlM (fun registry entry => registry.insertType entry.1 entry.2) empty
  let withLocations :=
    { withTypes with locations := locations.foldl SortedSet.add withTypes.locations }
  let withDevices ← devices.foldlM (fun registry device => do
    registry.checkMembership device
    return registry.put device) withLocations
  return { withDevices with version }

end Registry

end HomeVoice
