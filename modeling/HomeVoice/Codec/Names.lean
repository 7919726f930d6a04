import HomeVoice.Error
import HomeVoice.Json.Record

/-!
# Names, identifiers and actions in documents

Names come out in their normal form, whatever form they were written in.
-/

namespace HomeVoice

open Json (Decoder Value)

/-- A text that is meant to be a name of some kind, with the reason when it is none. -/
def Name.check {kind : NameKind} (text : String) : Except String (Name kind) :=
  (Name.ofText text).mapError ConfigurationError.message

def Name.decode {kind : NameKind} : Decoder (Name kind) := Decoder.string.refine Name.check

def Name.encode {kind : NameKind} (name : Name kind) : Value := .string name.text

/-- A text that is meant to be an identifier, with the reason when it is none. -/
def DeviceId.check (text : String) : Except String DeviceId :=
  (DeviceId.ofText text).mapError ConfigurationError.message

def DeviceId.decode : Decoder DeviceId := Decoder.string.refine DeviceId.check

def DeviceId.encode (id : DeviceId) : Value := .string id.text

def Action.decode : Decoder Action :=
  Decoder.choice (Action.all.map fun action => (action.token, action))

def Action.encode (action : Action) : Value := .string action.token

end HomeVoice
