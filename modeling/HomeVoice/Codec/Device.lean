import HomeVoice.Codec.Names
import HomeVoice.Device

/-!
# Devices in documents

What a device has not is written as null and may be left out when it is read. The bounds of a
range are checked while it is read.
-/

namespace HomeVoice

open Json (Decoder Record Value)

def RangeUnit.decode : Decoder RangeUnit :=
  Decoder.choice (RangeUnit.all.map fun unit => (unit.token, unit))

def RangeUnit.encode (unit : RangeUnit) : Value := .string unit.token

namespace ValueRange

/-- The range with these bounds, or the error that there is none. -/
def ofBounds (min max : Float) (unit : RangeUnit) : Except ConfigurationError ValueRange :=
  match ofBounds? min max unit with
  | some range => .ok range
  | none => .error (.invalidValueRange min max)

/-- Bounds as they are written, before they are checked. -/
def record : Record (Float × Float × RangeUnit) :=
  (fun min max unit => (min, max, unit)) <$> .required "min" Decoder.float
    <*> .required "max" Decoder.float <*> .required "unit" RangeUnit.decode

def decode : Decoder ValueRange :=
  (record.decoder "RawValueRange" false).refine fun (min, max, unit) =>
    (ofBounds min max unit).mapError ConfigurationError.message

def encode (range : ValueRange) : Value :=
  .object [("min", .ofFloat range.min), ("max", .ofFloat range.max), ("unit", range.unit.encode)]

end ValueRange

namespace Descriptor

def record : Record Descriptor :=
  Descriptor.mk <$> .lenient "stable_id" Decoder.string <*> .lenient "domain" Decoder.string
    <*> .lenient "display_name" Decoder.string <*> .lenient "device_class" Decoder.string
    <*> .lenient "area" Decoder.string <*> .lenient "parent_area" Decoder.string
    <*> .lenient "parent_name" Decoder.string

def decode : Decoder Descriptor := record.decoder "RawDescriptor" false

def members (raw : Descriptor) : List (String × Value) :=
  [("stable_id", .ofOption .string raw.stableId), ("domain", .ofOption .string raw.domain),
   ("display_name", .ofOption .string raw.displayName),
   ("device_class", .ofOption .string raw.deviceClass), ("area", .ofOption .string raw.area),
   ("parent_area", .ofOption .string raw.parentArea),
   ("parent_name", .ofOption .string raw.parentName)]

def encode (raw : Descriptor) : Value := .object raw.members

end Descriptor

namespace Device

def record : Record Device :=
  Device.mk <$> .required "id" DeviceId.decode <*> .required "enabled" Decoder.boolean
    <*> .optional "device_type" Name.decode <*> .optional "location" Name.decode
    <*> .defaulted "raw" {} Descriptor.decode <*> .optional "value_range" ValueRange.decode

def decode : Decoder Device := record.decoder "Device" false

def encode (device : Device) : Value :=
  .object
    [("id", device.id.encode), ("enabled", .boolean device.enabled),
     ("device_type", .ofOption Name.encode device.deviceType),
     ("location", .ofOption Name.encode device.location), ("raw", device.raw.encode),
     ("value_range", .ofOption ValueRange.encode device.valueRange)]

end Device

end HomeVoice
