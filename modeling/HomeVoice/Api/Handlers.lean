import HomeVoice.Api.MediaType
import HomeVoice.Api.Response
import HomeVoice.Api.Route
import HomeVoice.Codec.Dispatch
import HomeVoice.Codec.Status
import HomeVoice.Hub.Basic

/-!
# Answering requests

A request is refused for its path, its method, its segment, the media type of its body and the
body itself, in this order; then names are built and the hub is called.
-/

namespace HomeVoice.Api

open Json (Decoder Record Value)

/-- A request. -/
structure Request where
  method : String
  target : String
  contentType : Option String
  body : ByteArray

/-- What an insertion of a device asks for. -/
structure UpsertBody where
  enabled : Bool
  deviceType : Option String
  location : Option String
  raw : Descriptor
  valueRange : Option ValueRange

def UpsertBody.record : Record UpsertBody :=
  UpsertBody.mk <$> .defaulted "enabled" true Decoder.boolean
    <*> .optional "device_type" Decoder.string <*> .optional "location" Decoder.string
    <*> .defaulted "raw" {} Descriptor.decode <*> .optional "value_range" ValueRange.decode

def UpsertBody.decode : Decoder UpsertBody := record.decoder "UpsertDeviceRequest" false

def decodeEnabledBody : Decoder Bool :=
  (Record.required "enabled" Decoder.boolean).decoder "SetEnabledRequest" false

/-- The type and the location of an assignment. -/
def decodeAssignmentBody : Decoder (String × String) :=
  (Prod.mk <$> Record.required "device_type" Decoder.string
    <*> .required "location" Decoder.string).decoder "AssignRequest" false

/-- The name and the actions of a new device type. -/
def decodeTypeBody : Decoder (String × List Action) :=
  (Prod.mk <$> Record.required "name" Decoder.string
    <*> .required "actions" Action.decode.list).decoder "DeviceTypeBody" false

def decodeLocationBody : Decoder String :=
  (Record.required "name" Decoder.string).decoder "CreateLocationRequest" false

def encodeType (entry : DeviceType × List Action) : Value :=
  .object [("name", entry.1.encode), ("actions", .ofList Action.encode entry.2)]

/-- How many bytes a body may have. -/
def bodyLimit : Nat := 2097152

/-- The body of a request, or the status with which it is refused. -/
def readBytes (request : Request) : Except Nat ByteArray :=
  if request.body.size ≤ bodyLimit then .ok request.body else .error 413

/-- The text in the body of a request, or the status with which it is refused. -/
def readText (request : Request) : Except Nat String := do
  match String.fromUTF8? (← readBytes request) with
  | some text => return text
  | none => throw 400

/-- What the document in the body of a request says, or the status with which it is refused. -/
def readBody {α : Type} (decode : Decoder α) (request : Request) : Except Nat α :=
  if (request.contentType.bind MediaType.ofText?).any MediaType.isDocument then do
    match decode.ofBytes (← readBytes request) with
    | .ok value => .ok value
    | .error .malformed => .error 400
    | .error _ => .error 422
  else .error 415

/-- The name that a text writes. -/
def readName {kind : NameKind} (text : String) : Except Error (Name kind) :=
  (Name.ofText text).mapError .configuration

/-- The identifier that a text is. -/
def readId (text : String) : Except Error DeviceId :=
  (DeviceId.ofText text).mapError .configuration

/-- The device that an insertion asks for. -/
def UpsertBody.device (body : UpsertBody) (id : String) : Except Error Device := do
  let id ← readId id
  let deviceType ← body.deviceType.mapM readName
  let location ← body.location.mapM readName
  return ⟨id, body.enabled, deviceType, location, body.raw, body.valueRange⟩

variable {σ α β : Type} [Storage σ]

/-- Go on with what was read, or refuse the request. -/
def withRead (hub : Hub σ) (read : Except Nat α) (next : α → Response × Hub σ) :
    Answer × Hub σ :=
  match read with
  | .error status => (.refused status, hub)
  | .ok value => let (response, hub) := next value; (.response response, hub)

/-- Call the hub with what was checked, or answer with the error. -/
def withChecked (hub : Hub σ) (checked : Except Error α) (encode : β → Value)
    (call : α → Except Error β × Hub σ) : Response × Hub σ :=
  match checked with
  | .error error => (.ofError error, hub)
  | .ok value => let (result, hub) := call value; (.ofResult 200 encode result, hub)

/-- A segment of the path, or the status with which the request is refused. -/
def readSegment (id : Option String) : Except Nat String := id.elim (.error 400) .ok

/-- Answer `GET`, which changes nothing. -/
def handleGet (hub : Hub σ) : Route → Answer
  | .health => .response (.plain "OK")
  | .devices => .response (.document 200 (.ofList Device.encode hub.registry.devices.values))
  | .device id =>
    match readSegment id with
    | .error status => .refused status
    | .ok id => .response (.ofResult 200 Device.encode (readId id >>= hub.device))
  | .deviceTypes =>
    .response (.document 200 (.ofList encodeType hub.registry.deviceTypes.entries))
  | .locations => .response (.document 200 (.ofList Name.encode hub.registry.locations.keys))
  | .validation => .response (.document 200 hub.registry.validate.encode)
  | .grammar => .response (.document 200 hub.worker.status.encode)
  | .grammarText =>
    .response (match hub.worker.artifact with
      | some artifact => .plain artifact.grammarText
      | none => .ofError (.notFound "Grammar" "active"))
  | _ => .response (.bare 405)

/-- Answer `PUT`, which concerns one device. -/
def handlePut (hub : Hub σ) (request : Request) : Route → Answer × Hub σ
  | .device id =>
    withRead hub (do return (← readSegment id, ← readBody UpsertBody.decode request))
      fun (id, body) => withChecked hub (body.device id) Device.encode hub.upsertDevice
  | .deviceEnabled id =>
    withRead hub (do return (← readSegment id, ← readBody decodeEnabledBody request))
      fun (id, enabled) =>
        withChecked hub (readId id) Device.encode fun id => hub.setEnabled id enabled
  | .deviceAssignment id =>
    withRead hub (do return (← readSegment id, ← readBody decodeAssignmentBody request))
      fun (id, deviceType, location) =>
        let checked : Except Error (DeviceType × Location × DeviceId) := do
          return (← readName deviceType, ← readName location, ← readId id)
        withChecked hub checked Device.encode fun (deviceType, location, id) =>
          hub.assign id deviceType location
  | _ => (.response (.bare 405), hub)

/-- Declare a device type and answer with its vocabulary. -/
def createType (hub : Hub σ) (name : String) (actions : List Action) : Response × Hub σ :=
  match readName name with
  | .error error => (.ofError error, hub)
  | .ok name =>
    let (result, hub) := hub.addDeviceType name actions
    (.ofResult 201 (fun _ => encodeType (name, (hub.registry.vocabulary name).getD [])) result, hub)

/-- Declare a location; the status says whether it is new. -/
def createLocation (hub : Hub σ) (name : String) : Response × Hub σ :=
  match (readName name : Except Error Location) with
  | .error error => (.ofError error, hub)
  | .ok name =>
    match hub.addLocation name with
    | (.error error, hub) => (.ofError error, hub)
    | (.ok isNew, hub) => (.document (if isNew then 201 else 200) name.encode, hub)

/-- Answer `POST`. Commands are taken as they come, whatever their media type. -/
def handlePost (hub : Hub σ) (request : Request) : Route → Answer × Hub σ
  | .batch =>
    withRead hub (readBody ImportedDevice.decode.list request) fun batch =>
      let (result, hub) := hub.importDevices batch
      (.ofResult 200 ImportReport.encode result, hub)
  | .deviceTypes =>
    withRead hub (readBody decodeTypeBody request) fun (name, actions) =>
      createType hub name actions
  | .locations => withRead hub (readBody decodeLocationBody request) (createLocation hub)
  | .regeneration =>
    let (result, hub) := hub.regenerate
    (.response (.ofResult 200 (fun artifact : Artifact => artifact.metadata.encode) result), hub)
  | .commands =>
    withRead hub (readText request) fun text =>
      let (result, hub) := hub.execute text
      (.ofResult 200 DispatchRequest.encode result, hub)
  | .resolution =>
    withRead hub (readText request) fun text =>
      (.ofResult 200 DispatchRequest.encode (hub.resolve text), hub)
  | _ => (.response (.bare 405), hub)

/-- The answer without its body. -/
def Answer.withoutBody : Answer → Answer
  | .response full => .response { full with body := .empty }
  | .refused status => .refused status

/-- Answer a request. -/
def handle (hub : Hub σ) (request : Request) : Answer × Hub σ :=
  match Route.ofTarget? request.target with
  | none => (.response (.bare 404), hub)
  | some route =>
    match Method.ofText? request.method with
    | none => (.response (.bare 405), hub)
    | some method =>
      if method ∈ route.methods then
        match method with
        | .get =>
          let answer := handleGet hub route
          (if request.method = "HEAD" then answer.withoutBody else answer, hub)
        | .put => handlePut hub request route
        | .post => handlePost hub request route
      else (.response (.bare 405), hub)

end HomeVoice.Api
