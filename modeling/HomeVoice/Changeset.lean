import HomeVoice.Registry

/-!
# Changesets

A changeset is what one registry has beyond an earlier one. Edits only add and replace, so it
never takes anything away, and laying it over the earlier registry gives the later one.
-/

namespace HomeVoice

/-- The entries that are new or different, and the version that they lead to. -/
structure Changeset where
  version : UInt64
  devices : List Device
  customTypes : List (DeviceType × List Action)
  locations : List Location
  deriving BEq

namespace Changeset

/-- What the second registry has beyond the first. -/
def between (before after : Registry) : Changeset where
  version := after.version
  devices := after.devices.values.filter fun device => before.get? device.id != some device
  customTypes := after.declaredTypes.entries.filter fun entry => !before.knowsType entry.1
  locations := after.locations.keys.filter fun location => !before.knowsLocation location

/-- Nothing is new or different. -/
def isEmpty (changes : Changeset) : Bool :=
  changes.devices.isEmpty && changes.customTypes.isEmpty && changes.locations.isEmpty

/-- The registry with the entries of a changeset laid over it. -/
def overlay (changes : Changeset) (registry : Registry) : Registry where
  version := changes.version
  devices := changes.devices.foldl (fun devices device => devices.insert device.id device)
    registry.devices
  deviceTypes := changes.customTypes.foldl (fun types entry => types.insert entry.1 entry.2)
    registry.deviceTypes
  customTypes := changes.customTypes.foldl (fun names entry => names.add entry.1)
    registry.customTypes
  locations := changes.locations.foldl SortedSet.add registry.locations

end Changeset

end HomeVoice
