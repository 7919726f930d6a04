import HomeVoice.Registry

/-!
# Validation of a registry

A grammar needs every pair to mean one device. The report lists the pairs under which more than
one enabled device stands, and the enabled devices that stand under no pair because their type or
their location is missing. Only the former keep a grammar from being generated.
-/

namespace HomeVoice

/-- What a device lacks. -/
inductive Missing where
  | deviceType | location | both
  deriving DecidableEq, Repr

def Missing.token : Missing → String
  | .deviceType => "device_type"
  | .location => "location"
  | .both => "both"

/-- What a device lacks to stand under a pair. -/
def Device.missing (device : Device) : Option Missing :=
  match device.deviceType, device.location with
  | some _, some _ => none
  | none, some _ => some .deviceType
  | some _, none => some .location
  | none, none => some .both

/-- An enabled device that no command can address. -/
structure IncompleteDevice where
  deviceId : DeviceId
  missing : Missing
  deriving DecidableEq, Repr

/-- What validation finds. -/
structure ValidationReport where
  conflicts : List Conflict
  incomplete : List IncompleteDevice
  deriving DecidableEq, Repr

namespace ValidationReport

/-- Every pair means at most one device. -/
def isOk (report : ValidationReport) : Bool := report.conflicts.isEmpty

/-- The incomplete devices, or the conflicts as an error. -/
def incompleteOrConflict (report : ValidationReport) : Except Error (List IncompleteDevice) :=
  if report.isOk then .ok report.incomplete else .error (.conflict report.conflicts)

end ValidationReport

namespace Registry

/-- The identifiers of the enabled devices under each pair, in order. -/
def groups (registry : Registry) : SortedMap Pair (List DeviceId) :=
  registry.enabledDevices.foldl (fun groups device =>
    match device.pair with
    | none => groups
    | some pair => groups.insert pair ((groups.get? pair).getD [] ++ [device.id])) .empty

/-- The conflicts and the incomplete devices of a registry. -/
def validate (registry : Registry) : ValidationReport where
  conflicts := registry.groups.entries.filterMap fun group =>
    if 1 < group.2.length then some ⟨group.1.deviceType, group.1.location, group.2⟩ else none
  incomplete := registry.enabledDevices.filterMap fun device =>
    device.missing.map fun missing => ⟨device.id, missing⟩

end Registry

end HomeVoice
