import HomeVoice.Codec.Names
import HomeVoice.Validation

/-!
# Reports of a validation in documents
-/

namespace HomeVoice

open Json (Decoder Record Value)

namespace Conflict

def record : Record Conflict :=
  Conflict.mk <$> .required "device_type" Name.decode <*> .required "location" Name.decode
    <*> .required "device_ids" DeviceId.decode.list

def decode : Decoder Conflict := record.decoder "Conflict" false

def encode (conflict : Conflict) : Value :=
  .object
    [("device_type", conflict.deviceType.encode), ("location", conflict.location.encode),
     ("device_ids", .ofList DeviceId.encode conflict.deviceIds)]

end Conflict

namespace Missing

def all : List Missing := [.deviceType, .location, .both]

def decode : Decoder Missing := Decoder.choice (all.map fun missing => (missing.token, missing))

def encode (missing : Missing) : Value := .string missing.token

end Missing

namespace IncompleteDevice

def record : Record IncompleteDevice :=
  IncompleteDevice.mk <$> .required "device_id" DeviceId.decode
    <*> .required "missing" Missing.decode

def decode : Decoder IncompleteDevice := record.decoder "IncompleteDevice" false

def encode (device : IncompleteDevice) : Value :=
  .object [("device_id", device.deviceId.encode), ("missing", device.missing.encode)]

end IncompleteDevice

namespace ValidationReport

def record : Record ValidationReport :=
  ValidationReport.mk <$> .required "conflicts" Conflict.decode.list
    <*> .required "incomplete" IncompleteDevice.decode.list

def decode : Decoder ValidationReport := record.decoder "ValidationReport" false

def encode (report : ValidationReport) : Value :=
  .object
    [("conflicts", .ofList Conflict.encode report.conflicts),
     ("incomplete", .ofList IncompleteDevice.encode report.incomplete)]

end ValidationReport

end HomeVoice
