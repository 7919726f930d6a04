import HomeVoice.Codec.Device
import HomeVoice.Grammar.Artifact

/-!
# Artifacts in documents

The index of pairs is written as a list of entries, the other maps as objects. A point in time is
written in universal time.
-/

namespace HomeVoice

open Json (Decoder Record Value)

/-- A number below `2 ^ 32`. -/
def decodeWord : Decoder UInt32 := fun medium draft =>
  (Decoder.natural 32 medium draft).map UInt32.ofNat

/-- A version: a number below `2 ^ 64`. -/
def decodeVersion : Decoder UInt64 := fun medium draft =>
  (Decoder.natural 64 medium draft).map UInt64.ofNat

def encodeVersion (version : UInt64) : Value := .ofNat version.toNat

namespace Time.Timestamp

def decode : Decoder Timestamp
  | _, .string (some text) =>
    (ofText text).mapError fun fault => .refused fault.message
  | _, draft => draft.mismatch "an RFC 3339 formatted date and time string"

def encode (time : Timestamp) : Value := .string time.text

end Time.Timestamp

namespace GrammarOptions

def record : Record GrammarOptions :=
  GrammarOptions.mk <$> .required "percent_step" decodeWord
    <*> .required "temperature_step" decodeWord

def decode : Decoder GrammarOptions := record.decoder "GrammarOptions" false

def encode (options : GrammarOptions) : Value :=
  .object
    [("percent_step", .ofNat options.percentStep.toNat),
     ("temperature_step", .ofNat options.temperatureStep.toNat)]

end GrammarOptions

/-- The index of pairs of an artifact. -/
abbrev PairIndex := SortedMap Pair DeviceId

namespace PairIndex

/-- One entry of the index. -/
def entryRecord : Record (Pair × DeviceId) :=
  (fun deviceType location id => (⟨deviceType, location⟩, id))
    <$> .required "device_type" Name.decode <*> .required "location" Name.decode
    <*> .required "device_id" DeviceId.decode

def decodeEntry : Decoder (Pair × DeviceId) := entryRecord.decoder "PairEntry" false

def encodeEntry (entry : Pair × DeviceId) : Value :=
  .object
    [("device_type", entry.1.deviceType.encode), ("location", entry.1.location.encode),
     ("device_id", entry.2.encode)]

/-- Of entries with one pair the last one stays. -/
def decode : Decoder PairIndex := fun medium draft =>
  (decodeEntry.list medium draft).map SortedMap.ofList

def encode (index : PairIndex) : Value := .ofList encodeEntry index.entries

end PairIndex

namespace Artifact

def record : Record Artifact :=
  Artifact.mk <$> .required "grammar_text" Decoder.string
    <*> .required "pair_index" PairIndex.decode
    <*> .required "vocabularies" (Decoder.map Name.check Action.decode.list)
    <*> .required "value_ranges" (Decoder.map DeviceId.check ValueRange.decode)
    <*> .required "generated_at" Time.Timestamp.decode
    <*> .required "source_registry_version" decodeVersion
    <*> .required "options" GrammarOptions.decode

def decode : Decoder Artifact := record.decoder "GrammarArtifact" false

def encode (artifact : Artifact) : Value :=
  .object
    [("grammar_text", .string artifact.grammarText),
     ("pair_index", PairIndex.encode artifact.pairIndex),
     ("vocabularies", .object (artifact.vocabularies.entries.map fun entry =>
       (entry.1.text, .ofList Action.encode entry.2))),
     ("value_ranges", .object (artifact.valueRanges.entries.map fun entry =>
       (entry.1.text, entry.2.encode))),
     ("generated_at", artifact.generatedAt.encode),
     ("source_registry_version", encodeVersion artifact.sourceVersion),
     ("options", artifact.options.encode)]

end Artifact

def ArtifactMetadata.encode (metadata : ArtifactMetadata) : Value :=
  .object
    [("format_version", .ofNat metadata.formatVersion),
     ("source_registry_version", encodeVersion metadata.sourceVersion),
     ("generated_at", metadata.generatedAt.encode), ("pairs", .ofNat metadata.pairs)]

end HomeVoice
