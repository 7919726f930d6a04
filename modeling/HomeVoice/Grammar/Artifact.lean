import HomeVoice.Grammar.Rules
import HomeVoice.Time.Timestamp
import HomeVoice.Validation

/-!
# Grammar artifacts

An artifact is a generated grammar with all that is needed to act on its sentences: which device
stands under each pair, what its type accepts and which range it has. Only enabled devices with a
type and a location take part, and of those no two may stand under one pair.
-/

namespace HomeVoice

/-- A generated grammar and what belongs to it. -/
structure Artifact where
  grammarText : String
  pairIndex : SortedMap Pair DeviceId
  vocabularies : SortedMap DeviceType (List Action)
  valueRanges : SortedMap DeviceId ValueRange
  generatedAt : Time.Timestamp
  sourceVersion : UInt64
  options : GrammarOptions
  deriving BEq

/-- What a status says of an artifact. -/
structure ArtifactMetadata where
  formatVersion : Nat
  sourceVersion : UInt64
  generatedAt : Time.Timestamp
  pairs : Nat
  deriving DecidableEq, Repr

namespace Artifact

def metadata (artifact : Artifact) : ArtifactMetadata :=
  ⟨Grammar.formatVersion, artifact.sourceVersion, artifact.generatedAt, artifact.pairIndex.size⟩

/-- The locations that the grammar accepts for a device type. -/
def locationsFor (artifact : Artifact) (deviceType : DeviceType) : List Location :=
  (artifact.pairIndex.keys.filter (·.deviceType = deviceType)).map (·.location)

end Artifact

namespace Registry

/-- The enabled devices under their pairs; of several under one pair, the last. -/
def addressed (registry : Registry) : SortedMap Pair Device :=
  registry.enabledDevices.foldl (fun devices device =>
    match device.address with
    | none => devices
    | some pair => devices.insert pair device) .empty

/-- The device types under which enabled devices stand, in order. -/
def typesInUse (registry : Registry) : List DeviceType :=
  (SortedSet.ofList (registry.addressed.keys.map (·.deviceType))).keys

/-- The part of the grammar for a device type. -/
def grammarSection (registry : Registry) (deviceType : DeviceType) :
    Except ConfigurationError Grammar.Section :=
  match registry.vocabulary deviceType with
  | none => .error (.unknownType deviceType)
  | some actions =>
    let pairs := registry.addressed.keys.filter (·.deviceType = deviceType)
    .ok ⟨deviceType, pairs.map (·.location), actions⟩

/-- The parts of the grammar in the order of their device types. -/
def grammarSections (registry : Registry) : Except ConfigurationError (List Grammar.Section) :=
  registry.typesInUse.mapM registry.grammarSection

/-- Generate the grammar of a registry, at a given time. -/
def generate (registry : Registry) (options : GrammarOptions) (time : Time.Timestamp) :
    Except Error Artifact := do
  let _ ← registry.validate.incompleteOrConflict
  let devices := registry.addressed
  if devices.isEmpty then throw (.configuration .emptyRegistry)
  let sections ← registry.grammarSections.mapError .configuration
  return {
    grammarText := (Grammar.ofSections sections options registry.version).text
    pairIndex := devices.mapValues (·.id)
    vocabularies := .ofList (sections.map fun part => (part.deviceType, part.actions))
    valueRanges := .ofList (devices.values.filterMap fun device =>
      device.valueRange.map (device.id, ·))
    generatedAt := time
    sourceVersion := registry.version
    options }

end Registry

end HomeVoice
