import HomeVoice.Codec.Names
import HomeVoice.Conversion
import HomeVoice.Decimal.Reading
import HomeVoice.Grammar.Artifact

/-!
# Commands

A command is what the engine writes when it decodes against a grammar. Reading one checks its form
and its names, then the action and then the value. Resolving one looks its pair up in the artifact
of the grammar and gives the request that goes to the system that drives the devices.
-/

namespace HomeVoice

open Json (Decoder Record Value)

/-- A command as it is written. -/
structure WireCommand where
  deviceType : String
  action : String
  location : String
  value : Option String
  deriving DecidableEq, Repr

namespace WireCommand

def record : Record WireCommand :=
  WireCommand.mk <$> .required "deviceType" Decoder.string <*> .required "action" Decoder.string
    <*> .required "location" Decoder.string <*> .lenient "value" Decoder.string

/-- A written command has no other fields than these. -/
def decode : Decoder WireCommand := record.decoder "WireCommand" true

def encode (command : WireCommand) : Value :=
  .object ([("deviceType", .string command.deviceType), ("action", .string command.action),
    ("location", .string command.location)]
      ++ Value.memberIfSome "value" .string command.value)

end WireCommand

/-- A command. -/
structure Command where
  deviceType : DeviceType
  action : Action
  location : Location
  value : Option Float
  deriving Repr

/-- What the system that drives the devices is asked for. -/
structure DispatchRequest where
  deviceId : DeviceId
  service : String
  value : Option Float
  deriving BEq, Repr

namespace Command

/-- A name in a command; a text that is no name makes the command malformed. -/
def readName {kind : NameKind} (text : String) : Except Error (Name kind) :=
  (Name.ofText text).mapError fun error =>
    .integrity (.malformedCommand (.reason error.message))

/-- The value of a command: a finite number, possibly between blanks. -/
def readValue (text : String) : Except Error Float :=
  match Decimal.readNumber (String.ofList (Text.trim text.toList)) with
  | some value =>
    if Decimal.isFinite value then .ok value else .error (.semantic (.invalidValue text))
  | none => .error (.semantic (.invalidValue text))

/-- The command that a written one means. -/
def ofWire (wire : WireCommand) : Except Error Command := do
  let deviceType ← readName wire.deviceType
  let location ← readName wire.location
  let some action := Action.ofToken? wire.action
    | throw (.semantic (.illegalAction wire.action deviceType))
  let value ← wire.value.mapM readValue
  return ⟨deviceType, action, location, value⟩

/-- What makes a text no written command. -/
def faultOf (fault : Json.Fault) : CommandFault :=
  match fault.message? with
  | none => .noDocument
  | some message => .reason message

/-- Read what the engine wrote. -/
def parse (text : String) : Except Error Command := do
  let wire ← (WireCommand.decode.ofText text).mapError fun fault =>
    .integrity (.malformedCommand (faultOf fault))
  ofWire wire

/-- The command as it is written. -/
def toWire (command : Command) : WireCommand :=
  ⟨command.deviceType.text, command.action.token, command.location.text,
    command.value.map Decimal.messageText⟩

def encode (command : Command) : Value := command.toWire.encode

/-- The device that a command is for and, if its action carries a value, the range of the device
and the value on the scale of commands. -/
def target (command : Command) (artifact : Artifact) :
    Except Error (DeviceId × Option (ValueRange × Float)) := do
  let pair : Pair := ⟨command.deviceType, command.location⟩
  let some id := artifact.pairIndex.get? pair | throw (.integrity (.unmappedPair pair))
  let some vocabulary := artifact.vocabularies.get? command.deviceType
    | throw (.integrity (.unmappedPair pair))
  unless command.action ∈ vocabulary do
    throw (.semantic (.illegalAction command.action.token command.deviceType))
  if command.action.isNumeric then
    let some value := command.value | throw (.semantic (.missingValue command.action))
    return (id, some ((artifact.valueRanges.get? id).getD .hundredPercent, value))
  else return (id, none)

/-- The request that a command makes by the artifact of its grammar. -/
def resolve (command : Command) (artifact : Artifact) : Except Error DispatchRequest := do
  let (id, scaled) ← command.target artifact
  let value ← scaled.mapM fun (range, value) => (range.convert value).mapError .semantic
  return ⟨id, command.action.service, value⟩

end Command

example :
    (Command.ofWire ⟨"Fan", "set-percent", "a  b", some " 4e1"⟩).toOption.map Command.toWire =
      some ⟨"fan", "set-percent", "a b", some "40"⟩ := by
  decide +kernel

end HomeVoice
