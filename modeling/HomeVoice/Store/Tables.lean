import HomeVoice.Error

/-!
# The tables of the store

The store keeps the registry and the cached grammars as rows of texts and numbers, under the
primary key of their table. Whatever is in a row can be read back as it is; only loading a
registry or an artifact looks at what the texts mean.
-/

namespace HomeVoice.Store

/-- A device as it is stored. -/
structure DeviceRow where
  enabled : Int
  deviceType : Option String
  location : Option String
  raw : String
  valueRange : Option String
  deriving DecidableEq, Repr

/-- A cached grammar as it is stored. -/
structure ArtifactRow where
  formatVersion : Int
  options : String
  payload : String
  deriving DecidableEq, Repr

/-- All rows of the store. -/
structure Tables where
  /-- The version of the registry, once something was committed. -/
  version : Option Int := none
  /-- Device types by their names, with their vocabularies as documents. -/
  deviceTypes : SortedMap String String := .empty
  locations : SortedSet String := .empty
  devices : SortedMap String DeviceRow := .empty
  /-- Cached grammars by the versions of their registries. -/
  artifacts : SortedMap Int ArtifactRow := .empty

/-- A version as it is stored, in 64 bits with a sign. -/
def storedVersion (version : UInt64) : Except StorageError Int :=
  if version.toNat < 0x8000000000000000 then .ok version.toNat else .error .versionOutOfRange

end HomeVoice.Store
