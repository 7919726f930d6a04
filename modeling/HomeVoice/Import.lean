import HomeVoice.Classifier.Classification
import HomeVoice.Codec.Artifact

/-!
# Importing devices

A batch of descriptors is classified and put into the registry in one edit. What a known device
already has, its type, its location, its range and whether it is enabled, is kept unless the item
says otherwise; only what is missing is filled in from the classifier.
-/

namespace HomeVoice

open Json (Decoder Record Value)

/-- One item of a batch. -/
structure ImportedDevice where
  id : DeviceId
  /-- New devices are disabled unless the item says otherwise. -/
  enabled : Option Bool
  raw : Descriptor
  valueRange : Option ValueRange
  deriving BEq, Repr

namespace ImportedDevice

/-- The fields that stand beside those of the descriptor. -/
def outerRecord : Record (DeviceId × Option Bool × Option ValueRange) :=
  (fun id enabled range => (id, enabled, range)) <$> .required "id" DeviceId.decode
    <*> .lenient "enabled" Decoder.boolean <*> .lenient "value_range" ValueRange.decode

def decode : Decoder ImportedDevice := fun medium draft =>
  (Record.flattened outerRecord Descriptor.record "ImportedDevice" medium draft).map
    fun ((id, enabled, valueRange), raw) => ⟨id, enabled, raw, valueRange⟩

def encode (item : ImportedDevice) : Value :=
  .object ([("id", item.id.encode), ("enabled", .ofOption .boolean item.enabled)]
    ++ item.raw.members ++ [("value_range", .ofOption ValueRange.encode item.valueRange)])

/-- The device that an item makes of a known or unknown one. -/
def device (item : ImportedDevice) (existing : Option Device) : Device :=
  let guess := Classification.ofDescriptor item.raw
  { id := item.id
    enabled := item.enabled.getD ((existing.map (·.enabled)).getD false)
    deviceType := (existing.bind (·.deviceType)).or guess.deviceType
    location := (existing.bind (·.location)).or guess.location
    raw := item.raw
    valueRange := item.valueRange.or (existing.bind (·.valueRange)) }

end ImportedDevice

/-- What an import did. -/
structure ImportReport where
  created : List DeviceId := []
  updated : List DeviceId := []
  unchanged : List DeviceId := []
  /-- Devices that still lack a type or a location. -/
  unclassified : List DeviceId := []
  newLocations : List Location := []
  registryVersion : UInt64 := 0
  deriving DecidableEq, Repr

namespace ImportReport

def record : Record ImportReport :=
  ImportReport.mk <$> .required "created" DeviceId.decode.list
    <*> .required "updated" DeviceId.decode.list <*> .required "unchanged" DeviceId.decode.list
    <*> .required "unclassified" DeviceId.decode.list
    <*> .required "new_locations" (Decoder.list Name.decode)
    <*> .required "registry_version" decodeVersion

def decode : Decoder ImportReport := record.decoder "ImportReport" false

def encode (report : ImportReport) : Value :=
  .object
    [("created", .ofList DeviceId.encode report.created),
     ("updated", .ofList DeviceId.encode report.updated),
     ("unchanged", .ofList DeviceId.encode report.unchanged),
     ("unclassified", .ofList DeviceId.encode report.unclassified),
     ("new_locations", .ofList Name.encode report.newLocations),
     ("registry_version", encodeVersion report.registryVersion)]

end ImportReport

namespace Registry

/-- Put one item into the registry and note in the report what became of it. -/
def importItem (registry : Registry) (report : ImportReport) (item : ImportedDevice) :
    Except ConfigurationError (Registry × ImportReport) := do
  let located : Bool × Registry :=
    match (Classification.ofDescriptor item.raw).location with
    | some location => registry.addLocation location
    | none => (false, registry)
  let newLocations :=
    if located.1 then (Classification.ofDescriptor item.raw).location.toList else []
  let existing := located.2.get? item.id
  let device := item.device existing
  let stored ← located.2.upsert device
  let noted := { report with
    newLocations := report.newLocations ++ newLocations
    unclassified := report.unclassified ++ (if device.isClassified then [] else [item.id]) }
  return (stored,
    match existing with
    | none => { noted with created := noted.created ++ [item.id] }
    | some known =>
      if known == device then { noted with unchanged := noted.unchanged ++ [item.id] }
      else { noted with updated := noted.updated ++ [item.id] })

/-- Put a batch into the registry, item by item. -/
def importBatch (registry : Registry) (batch : List ImportedDevice) :
    Except ConfigurationError (Registry × ImportReport) := do
  let (stored, report) ← batch.foldlM (fun state item => importItem state.1 state.2 item)
    (registry, {})
  return (stored, { report with registryVersion := stored.version })

end Registry

end HomeVoice
