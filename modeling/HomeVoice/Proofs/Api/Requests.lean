import HomeVoice.Proofs.Api.Frame
import HomeVoice.Proofs.Registry.Entry

/-!
# The calls that requests make

A request makes one call of the hub or none. Which edit it asks for is written in the request alone:
in its method, its path and its body. A request that puts something is answered with 200 exactly if
its edit of one device succeeds, and then with the device that the edit gives.
-/

namespace HomeVoice

open Hub (RegistryEdit)

namespace Api

namespace Request

variable {α β : Type}

/-- The edit that is asked for if everything can be read and passes its checks. -/
def asked {γ : Type} (read : Except Nat α) (checked : α → Except Error β) (edit : α → β → γ) :
    Option γ := do
  let value ← read.toOption
  let item ← (checked value).toOption
  return edit value item

/-- The edit of one device that a request asks for if it puts something. -/
def deviceEdit? (request : Request) : Route → Option DeviceEdit
  | .device id =>
    asked (do return (← readSegment id, ← readBody UpsertBody.decode request))
      (fun (id, body) => body.device id) fun _ device => .upsert device
  | .deviceEnabled id =>
    asked (do return (← readSegment id, ← readBody decodeEnabledBody request))
      (fun (id, _) => readId id) fun (_, enabled) id => .setEnabled id enabled
  | .deviceAssignment id =>
    asked (do return (← readSegment id, ← readBody decodeAssignmentBody request))
      (fun (id, deviceType, location) => do
        return (← readName deviceType, ← readName location, ← readId id))
      fun _ (deviceType, location, id) => .assign id deviceType location
  | _ => none

/-- The edit that a request asks for if it posts something. -/
def postedEdit? (request : Request) : Route → Option RegistryEdit
  | .batch => asked (readBody ImportedDevice.decode.list request) .ok fun _ batch =>
      .importDevices batch
  | .deviceTypes => asked (readBody decodeTypeBody request) (fun (name, _) => readName name)
      fun (_, actions) name => .addDeviceType name actions
  | .locations => asked (readBody decodeLocationBody request) readName fun _ name =>
      .addLocation name
  | _ => none

/-- The edit that a request asks for. -/
def edit? (request : Request) : Option RegistryEdit :=
  match Route.ofTarget? request.target, Method.ofText? request.method with
  | some route, some .put => (request.deviceEdit? route).map DeviceEdit.edit
  | some route, some .post => request.postedEdit? route
  | _, _ => none

theorem asked_eq_some {γ : Type} {read : Except Nat α} {checked : α → Except Error β}
    {edit : α → β → γ} {result : γ} :
    asked read checked edit = some result ↔
      ∃ value item, read = .ok value ∧ checked value = .ok item ∧ edit value item = result := by
  simp only [asked, Option.bind_eq_bind, Option.bind_eq_some_iff, toOption_eq_some,
    Option.pure_def, Option.some.injEq]
  constructor
  · rintro ⟨value, read, item, checked, same⟩
    exact ⟨value, item, read, checked, same⟩
  · rintro ⟨value, item, read, checked, same⟩
    exact ⟨value, read, item, checked, same⟩

end Request

section Refusals

variable {α : Type}

/-- What is refused is not answered with 200. -/
def Refuses (read : Except Nat α) : Prop := ∀ status, read = .error status → status ≠ 200

theorem refuses_readSegment (id : Option String) : Refuses (readSegment id) := by
  intro status refused
  cases id with
  | none =>
    cases refused
    decide
  | some id => cases refused

theorem refuses_readBody (decode : Json.Decoder α) (request : Request) :
    Refuses (readBody decode request) := by
  intro status refused
  unfold readBody readBytes at refused
  split at refused
  · split at refused
    · rw [ok_bind] at refused
      split at refused
      · cases refused
      · cases refused
        decide
      · cases refused
        decide
    · cases refused
      decide
  · cases refused
    decide

theorem Refuses.both {β : Type} {first : Except Nat α} {second : Except Nat β}
    (one : Refuses first) (other : Refuses second) :
    Refuses (do return (← first, ← second)) := by
  intro status refused
  cases first with
  | error _ =>
    cases refused
    exact one _ rfl
  | ok value =>
    cases second with
    | error _ =>
      cases refused
      exact other _ rfl
    | ok item => cases refused

theorem statusOf_ne (error : Error) : statusOf error ≠ 200 := by
  unfold statusOf
  split <;> decide

end Refusals

variable {σ α β : Type} [Storage σ] {hub : Hub σ} {request : Request}

/-- A request that puts something does the edit that it asks for and is answered with the result. If
it asks for none it is answered with another status than 200, and nothing is done. -/
def Puts (hub : Hub σ) (edit? : Option DeviceEdit) (outcome : Answer × Hub σ) : Prop :=
  match edit? with
  | some edit => outcome =
      (.response (.ofResult 200 Device.encode (hub.edit edit.run).1), (hub.edit edit.run).2)
  | none => outcome.1.status ≠ 200 ∧ outcome.2 = hub

theorem puts_asked {read : Except Nat α} (refuses : Refuses read) (checked : α → Except Error β)
    (edit : α → β → DeviceEdit) :
    Puts hub (Request.asked read checked edit) (withRead hub read fun value =>
      withChecked hub (checked value) Device.encode fun item =>
        hub.edit (edit value item).run) := by
  cases read with
  | error status => exact ⟨refuses status rfl, rfl⟩
  | ok value =>
    show Puts hub (Request.asked (.ok value) checked edit) ((withChecked hub (checked value)
      Device.encode fun item => hub.edit (edit value item).run).map .response id)
    cases passed : checked value with
    | error error =>
      have none : Request.asked (.ok value) checked edit = none := by
        simp [Request.asked, Except.toOption, passed]
      rw [none]
      exact ⟨statusOf_ne error, rfl⟩
    | ok item =>
      have some : Request.asked (.ok value) checked edit = some (edit value item) :=
        Request.asked_eq_some.mpr ⟨value, item, rfl, passed, rfl⟩
      rw [some]
      rfl

theorem handlePut_puts (request : Request) (route : Route) :
    Puts hub (request.deviceEdit? route) (handlePut hub request route) := by
  have unknown : (405 : Nat) ≠ 200 := by decide
  unfold handlePut Request.deviceEdit?
  cases route with
  | device id =>
    exact puts_asked ((refuses_readSegment id).both (refuses_readBody _ request)) _ _
  | deviceEnabled id =>
    exact puts_asked ((refuses_readSegment id).both (refuses_readBody _ request)) _ _
  | deviceAssignment id =>
    exact puts_asked ((refuses_readSegment id).both (refuses_readBody _ request)) _ _
  | _ => exact ⟨unknown, rfl⟩

/-- The segment of a path that names a device. -/
def Route.deviceText? : Route → Option String
  | .device id | .deviceEnabled id | .deviceAssignment id => id
  | _ => none

theorem text_of_readId {text : String} {id : DeviceId} (read : readId text = .ok id) :
    id.text = text := by
  have given := mapError_eq_ok.mp read
  unfold DeviceId.ofText DeviceId.ofText? at given
  split at given
  next found =>
    split at found
    · cases found
    · cases found
      cases given
      rfl
  · cases given

theorem text_of_body {body : UpsertBody} {text : String} {device : Device}
    (made : body.device text = .ok device) : device.id.text = text := by
  obtain ⟨id, read, made⟩ := bind_eq_ok.mp made
  obtain ⟨_, _, made⟩ := bind_eq_ok.mp made
  obtain ⟨_, _, made⟩ := bind_eq_ok.mp made
  cases made
  exact text_of_readId read

/-- The segment is read first. -/
theorem segment_of_read {rest : Except Nat α} {segment : Option String} {text : String} {value : α}
    (read : (do return (← readSegment segment, ← rest)) = Except.ok (text, value)) :
    segment = some text := by
  obtain ⟨found, named, read⟩ := bind_eq_ok.mp read
  obtain ⟨_, _, read⟩ := bind_eq_ok.mp read
  cases read
  cases segment with
  | none => cases named
  | some given =>
    cases named
    rfl

/-- The path names the device that is edited. -/
theorem deviceText?_of_deviceEdit? {route : Route} {edit : DeviceEdit}
    (asked : request.deviceEdit? route = some edit) : route.deviceText? = some edit.id.text := by
  cases route with
  | device id =>
    obtain ⟨⟨text, body⟩, device, read, made, rfl⟩ := Request.asked_eq_some.mp asked
    exact (segment_of_read read).trans (congrArg some (text_of_body made).symm)
  | deviceEnabled id =>
    obtain ⟨⟨text, enabled⟩, own, read, named, rfl⟩ := Request.asked_eq_some.mp asked
    exact (segment_of_read read).trans (congrArg some (text_of_readId named).symm)
  | deviceAssignment id =>
    obtain ⟨⟨text, names⟩, ⟨deviceType, location, own⟩, read, named, rfl⟩ :=
      Request.asked_eq_some.mp asked
    obtain ⟨_, _, named⟩ := bind_eq_ok.mp named
    obtain ⟨_, _, named⟩ := bind_eq_ok.mp named
    obtain ⟨_, identified, named⟩ := bind_eq_ok.mp named
    cases named
    exact (segment_of_read read).trans (congrArg some (text_of_readId identified).symm)
  | _ => cases asked

/-- Only what is put under the path of the device itself is inserted. -/
theorem eq_device_of_upsert {route : Route} {device : Device}
    (asked : request.deviceEdit? route = some (.upsert device)) : ∃ id, route = .device id := by
  cases route with
  | device id => exact ⟨id, rfl⟩
  | deviceEnabled id =>
    obtain ⟨_, _, _, _, same⟩ := Request.asked_eq_some.mp asked
    cases same
  | deviceAssignment id =>
    obtain ⟨_, _, _, _, same⟩ := Request.asked_eq_some.mp asked
    cases same
  | _ => cases asked

section Documents

variable {γ : Type} {request : Request} {device : Device}

theorem readId_text (id : DeviceId) : readId id.text = .ok id := by
  unfold readId DeviceId.ofText
  rw [DeviceId.ofText?_text]
  rfl

theorem readName_text {kind : NameKind} (name : Name kind) : readName name.text = .ok name := by
  unfold readName
  rw [Name.ofText_text]
  rfl

theorem mapM_readName_text {kind : NameKind} (name : Option (Name kind)) :
    (name.map (·.text)).mapM readName = .ok name := by
  cases name with
  | none => rfl
  | some name =>
    rw [Option.map_some, Option.mapM_some, readName_text]
    rfl

/-- A document in the bytes of a body is read as what it is the document of. -/
theorem readBody_of_restores {decode : Json.Decoder γ} {value : Json.Value} {item : γ}
    (restores : decode.Restores value item) (back : value.ReadsBack)
    (declared : (request.contentType.bind MediaType.ofText?).any MediaType.isDocument = true)
    (short : request.body.size ≤ bodyLimit) (written : request.body = value.text.toUTF8) :
    readBody decode request = .ok item := by
  unfold readBody readBytes
  rw [if_pos declared, if_pos short, ok_bind, written, Json.Decoder.ofBytes_toUTF8,
    restores.ofText back]

/-- What the document of a device asks for if it is put. -/
def UpsertBody.ofDevice (device : Device) : UpsertBody where
  enabled := device.enabled
  deviceType := device.deviceType.map (·.text)
  location := device.location.map (·.text)
  raw := device.raw
  valueRange := device.valueRange

theorem UpsertBody.restores (device : Device) :
    UpsertBody.decode.Restores device.encode (.ofDevice device) := by
  have text {kind : NameKind} (name : Option (Name kind)) :
      Json.Decoder.string.optional.Restores (.ofOption Name.encode name) (name.map (·.text)) := by
    intro medium
    cases name <;> rfl
  have fields : UpsertBody.record.Restores _ (.ofDevice device) :=
    (((((Json.Record.restores_field "enabled" (.anywhere true)
      (Json.Decoder.restores_boolean device.enabled)).map _).join
      (Json.Record.restores_field "device_type" (.inObject none) (text device.deviceType))
        (by decide)).join
      (Json.Record.restores_field "location" (.inObject none) (text device.location))
        (by decide)).join
      (Json.Record.restores_field "raw" (.anywhere ({} : Descriptor)) device.raw.restores)
        (by decide)).join
      (Json.Record.restores_field "value_range" (.inObject none)
        (ValueRange.restores_optional device.valueRange)) (by decide)
  have passed : "id" ∉ UpsertBody.record.names := by decide
  exact fields.decoder_behind _ passed rfl

theorem UpsertBody.device_ofDevice (device : Device) :
    (UpsertBody.ofDevice device).device device.id.text = .ok device := by
  unfold UpsertBody.device
  rw [readId_text, ok_bind]
  show ((device.deviceType.map (·.text)).mapM readName >>= fun _ =>
    (device.location.map (·.text)).mapM readName >>= _) = _
  rw [mapM_readName_text, ok_bind, mapM_readName_text]
  rfl

/-- Whoever puts the document of a device asks for this device to be inserted. -/
theorem deviceEdit?_of_document (survives : device.RangeIn ValueRange.Survives)
    (declared : (request.contentType.bind MediaType.ofText?).any MediaType.isDocument = true)
    (short : request.body.size ≤ bodyLimit) (written : request.body = device.encode.text.toUTF8) :
    request.deviceEdit? (.device (some device.id.text)) = some (.upsert device) := by
  have read := readBody_of_restores (UpsertBody.restores device) (Device.readsBack_encode survives)
    declared short written
  have both : (do return (← readSegment (some device.id.text),
      ← readBody UpsertBody.decode request)) =
        Except.ok (device.id.text, UpsertBody.ofDevice device) := by
    rw [read]
    rfl
  rw [Request.deviceEdit?, Request.asked_eq_some]
  exact ⟨_, device, both, UpsertBody.device_ofDevice device, rfl⟩

end Documents

/-- A request that posts something does the edit that it asks for, lets the worker generate,
executes a command or does nothing. -/
theorem handlePost_cases (request : Request) (route : Route) :
    (handlePost hub request route).2 = hub ∨
      (∃ edit, request.postedEdit? route = some edit ∧
        (handlePost hub request route).2 = (hub.edit edit.run).2) ∨
      (handlePost hub request route).2 = hub.regenerate.2 ∨
      ∃ text, (handlePost hub request route).2 = (hub.execute text).2 := by
  unfold handlePost Request.postedEdit?
  cases route with
  | batch =>
    cases read : readBody ImportedDevice.decode.list request with
    | error status => exact .inl rfl
    | ok batch => exact .inr (.inl ⟨.importDevices batch, rfl, rfl⟩)
  | deviceTypes =>
    cases read : readBody decodeTypeBody request with
    | error status => exact .inl rfl
    | ok value =>
      obtain ⟨name, actions⟩ := value
      cases named : (readName name : Except Error DeviceType) with
      | error error =>
        left
        simp only [withRead, createType, named]
      | ok deviceType =>
        refine .inr (.inl ⟨.addDeviceType deviceType actions, ?_, ?_⟩)
        · exact Request.asked_eq_some.mpr ⟨_, _, rfl, named, rfl⟩
        · simp only [withRead, createType, named]
          rfl
  | locations =>
    cases read : readBody decodeLocationBody request with
    | error status => exact .inl rfl
    | ok name =>
      cases named : (readName name : Except Error Location) with
      | error error =>
        left
        simp only [withRead, createLocation, named]
      | ok location =>
        refine .inr (.inl ⟨.addLocation location, ?_, ?_⟩)
        · exact Request.asked_eq_some.mpr ⟨_, _, rfl, named, rfl⟩
        · simp only [withRead, createLocation, named]
          rcases done : hub.addLocation location with ⟨error | isNew, after⟩
          · exact (congrArg Prod.snd done).symm
          · exact (congrArg Prod.snd done).symm
  | regeneration => exact .inr (.inr (.inl rfl))
  | commands =>
    cases read : readText request with
    | error status => exact .inl rfl
    | ok text => exact .inr (.inr (.inr ⟨text, rfl⟩))
  | resolution =>
    cases readText request <;> exact .inl rfl
  | _ => exact .inl rfl

/-- What a request makes of the hub. -/
theorem handle_effect (hub : Hub σ) (request : Request) :
    (handle hub request).2 = hub ∨
      (∃ edit, request.edit? = some edit ∧ (handle hub request).2 = (hub.edit edit.run).2) ∨
      (handle hub request).2 = hub.regenerate.2 ∨
      ∃ text, (handle hub request).2 = (hub.execute text).2 := by
  unfold handle Request.edit?
  cases found : Route.ofTarget? request.target with
  | none => exact .inl rfl
  | some route =>
    cases method : Method.ofText? request.method with
    | none => exact .inl rfl
    | some taken =>
      by_cases allowed : taken ∈ route.methods
      · simp only [allowed, if_true]
        cases taken with
        | get => exact .inl rfl
        | put =>
          have puts := @handlePut_puts σ _ hub request route
          show (handlePut hub request route).2 = hub ∨ _
          cases asked : request.deviceEdit? route with
          | none =>
            rw [asked] at puts
            exact .inl puts.2
          | some edit =>
            rw [asked] at puts
            refine .inr (.inl ⟨edit.edit, congrArg (Option.map DeviceEdit.edit) asked, ?_⟩)
            show (handlePut hub request route).2 = _
            rw [puts]
            cases edit <;> rfl
        | post => exact handlePost_cases request route
      · simp only [allowed]
        exact .inl rfl

/-- A request that puts something and is answered with 200 has done the edit that it asks for, and
the device that the edit gave is the answer. -/
theorem handle_put (put : Method.ofText? request.method = some .put)
    (answered : (handle hub request).1.status = 200) :
    ∃ (edit : DeviceEdit) (device : Device) (route : Route),
      Route.ofTarget? request.target = some route ∧ request.deviceEdit? route = some edit ∧
      request.edit? = some edit.edit ∧ (hub.edit edit.run).1 = .ok device ∧
      handle hub request = (.response (.document 200 device.encode), (hub.edit edit.run).2) := by
  cases found : Route.ofTarget? request.target with
  | none =>
    simp only [handle, found] at answered
    cases answered
  | some route =>
    by_cases allowed : Method.put ∈ route.methods
    · have handled : handle hub request = handlePut hub request route := by
        simp only [handle, found, put, allowed, if_true]
      have puts := @handlePut_puts σ _ hub request route
      rw [handled] at answered ⊢
      cases asked : request.deviceEdit? route with
      | none =>
        rw [asked] at puts
        exact absurd answered puts.1
      | some edit =>
        rw [asked] at puts
        rw [puts] at answered ⊢
        have edits : request.edit? = some edit.edit := by
          simp only [Request.edit?, found, put, asked, Option.map_some]
        cases done : (hub.edit edit.run).1 with
        | error error =>
          rw [done] at answered
          exact absurd answered (statusOf_ne error)
        | ok device =>
          exact ⟨edit, device, route, rfl, asked, edits, done, rfl⟩
    · simp only [handle, found, put, allowed, if_false] at answered
      cases answered

end Api

end HomeVoice
