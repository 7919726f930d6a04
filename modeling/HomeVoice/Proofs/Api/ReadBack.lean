import HomeVoice.Proofs.Api.Requests
import HomeVoice.Proofs.System.Entry

/-!
# What was put is read back

A device that was put is shown as it was answered, to whoever asks for it and among all devices, as
long as nobody edits it; and so it is after any number of starts if the bounds of its range survive
being written and read. There is one exception. A device that is inserted is compared with the one
that is there by `==`, which does not tell the two zeros apart. Where there is nothing to change the
answer is the device that was given, and what is shown may have a zero with another sign. What is
shown may itself be put, which changes nothing.
-/

namespace HomeVoice.Api

open Hub (Dispatcher RegistryEdit)
open Store (Database)

/-- What happens to a hub that serves requests. -/
inductive Event where
  | serve (request : Request)
  | wait (ms : Nat)
  /-- The hub starts again on what it leaves. -/
  | restart (settings : HubSettings)
  /-- The store gets out of reach or in reach, and the driving system may change its ways. -/
  | turn (isBroken : Bool) (dispatcher : Dispatcher)

namespace Event

/-- What an event makes of a hub. Only a start can fail. -/
def apply (hub : Hub Database) : Event → Except Error (Hub Database)
  | serve request => .ok (handle hub request).2
  | wait ms => .ok (hub.passTime ms)
  | restart settings => Hub.start hub.outside settings
  | turn isBroken dispatcher =>
    .ok { hub with
      outside := { hub.outside with store := { hub.outside.store with isBroken }, dispatcher } }

/-- The edit that is asked for. -/
def edit? : Event → Option RegistryEdit
  | serve request => request.edit?
  | _ => none

/-- The bounds of all ranges survive being written and read. -/
def Survives (event : Event) : Prop :=
  ∀ edit, event.edit? = some edit → edit.RangesIn ValueRange.Survives

/-- The device is not edited: what is asked for does not concern it or fails. -/
def Spares (id : DeviceId) (hub : Hub Database) (event : Event) : Prop :=
  ∀ edit, event.edit? = some edit → edit.Concerns id → ∃ error, (hub.edit edit.run).1 = .error error

/-- The event is no start. -/
def GoesOn : Event → Prop
  | restart _ => False
  | _ => True

/-- The call that an event comes to. -/
def Asks (hub : Hub Database) (event : Event) : Hub.Call Database → Prop
  | .edit edit => event.edit? = some edit ∧ ∃ answer, (hub.edit edit.run).1 = .ok answer
  | .restart _ => ¬ event.GoesOn
  | .disturb change _ => ∀ store, (change store).tables = store.tables
  | _ => True

variable {hub after : Hub Database} {event : Event}

/-- An event is a call of the hub, unless it leaves the hub. -/
theorem call_of_apply (applied : event.apply hub = .ok after) :
    after = hub ∨ ∃ call, event.Asks hub call ∧ hub.call call = .ok after := by
  cases event with
  | serve request =>
    cases applied
    rcases handle_effect hub request with
      same | ⟨edit, asked, edited⟩ | generated | ⟨text, executed⟩
    · exact .inl same
    · rw [edited]
      rcases hub.edit_cases edit.run with ⟨_, failed⟩ | ⟨answer, _, _, success, _⟩
      · exact .inl (congrArg Prod.snd failed)
      · exact .inr ⟨.edit edit, ⟨asked, answer, success⟩, rfl⟩
    · rw [generated]
      exact .inr ⟨.regenerate, trivial, rfl⟩
    · rw [executed]
      exact .inr ⟨.execute text, trivial, rfl⟩
  | wait ms => exact .inr ⟨.wait ms, trivial, applied⟩
  | restart settings => exact .inr ⟨.restart settings, not_false, applied⟩
  | turn isBroken dispatcher =>
    exact .inr ⟨.disturb (fun store => { store with isBroken }) dispatcher, fun _ => rfl, applied⟩

variable {call : Hub.Call Database} {system : System Database} {step : System.Event Database}
  {id : DeviceId}

theorem Asks.undisturbed (asks : event.Asks hub call) (takes : call.Takes system step) :
    System.Undisturbed system step :=
  System.undisturbed_of_takes takes <| by
    rintro change dispatcher rfl
    exact asks

theorem Asks.keepsTables (asks : event.Asks hub call) (survives : event.Survives)
    (takes : call.Takes system step) : System.KeepsTables system step := by
  refine System.keepsTables_of_takes takes ?_ ?_
  · rintro edit rfl
    exact survives edit asks.1
  · rintro change dispatcher rfl
    exact asks

theorem Asks.leaves (asks : event.Asks hub call) (spares : event.Spares id hub)
    (takes : call.Takes system step) : step.Leaves id := by
  refine System.leaves_of_takes takes ?_
  rintro edit rfl concerns
  obtain ⟨asked, answer, success⟩ := asks
  obtain ⟨error, failed⟩ := spares edit asked concerns
  cases failed.symm.trans success

theorem Asks.goesOn (asks : event.Asks hub call) (goesOn : event.GoesOn)
    (takes : call.Takes system step) : step.GoesOn := by
  refine System.goesOn_of_takes takes ?_
  rintro settings rfl
  exact asks goesOn

end Event

/-- A run of events, each of which is permitted where it happens. -/
inductive Runs (permitted : Hub Database → Event → Prop) : Hub Database → Hub Database → Prop where
  | none (hub : Hub Database) : Runs permitted hub hub
  | more {first hub after : Hub Database} {event : Event} (before : Runs permitted first hub)
      (allowed : permitted hub event) (applied : event.apply hub = .ok after) :
      Runs permitted first after

/-- The hub was started on a new store and has served requests since. -/
def Served (permitted : Hub Database → Event → Prop) (hub : Hub Database) : Prop :=
  ∃ dispatcher now settings started,
    Hub.start { store := ({} : Database), dispatcher, now } settings = .ok started ∧
      Runs permitted started hub

/-- Whoever asks for the device gets it, alone and in its place among all devices. -/
structure Shows (hub : Hub Database) (device : Device) : Prop where
  alone : ∀ request : Request, request.method = "GET" →
    Route.ofTarget? request.target = some (.device (some device.id.text)) →
    handle hub request = (.response (.document 200 device.encode), hub)
  among : ∀ request : Request, request.method = "GET" →
    Route.ofTarget? request.target = some .devices →
    ∃ devices : List Device, handle hub request =
        (.response (.document 200 (.ofList Device.encode devices)), hub) ∧
      device ∈ devices ∧ devices.Pairwise fun first second => first.id < second.id

/-- The hub shows the device, or one that differs from it in the signs of zeros at most; where
`exact` holds it shows this one. -/
def ReadsBack (hub : Hub Database) (device : Device) (exact : Prop) : Prop :=
  ∃ kept, Shows hub kept ∧ (kept == device) = true ∧ (exact → kept = device)

variable {hub later : Hub Database} {request : Request} {device : Device} {exact : Prop}

theorem handle_of_get {route : Route} (got : request.method = "GET")
    (routed : Route.ofTarget? request.target = some route) (taken : Method.get ∈ route.methods) :
    handle hub request = (handleGet hub route, hub) := by
  have method : Method.ofText? request.method = some .get := got ▸ rfl
  have whole : request.method ≠ "HEAD" := by
    rw [got]
    decide
  simp only [handle, routed, method, taken, whole, if_true, if_false]

theorem shows_of_get? (owned : hub.registry.OwnsIds)
    (found : hub.registry.get? device.id = some device) : Shows hub device where
  alone request got routed := by
    have known : hub.device device.id = .ok device := by
      rw [Hub.device, found]
    rw [handle_of_get got routed List.mem_cons_self]
    show (Answer.response (.ofResult 200 Device.encode (readId device.id.text >>= hub.device)), _) =
      _
    rw [readId_text, ok_bind, known]
    rfl
  among request got routed := by
    refine ⟨hub.registry.devices.values, ?_, SortedMap.mem_values_iff.mpr ⟨_, found⟩,
      owned.pairwise_values⟩
    rw [handle_of_get got routed List.mem_cons_self]
    rfl

theorem readsBack_of_hasDevice (owned : hub.registry.OwnsIds)
    (holds : hub.registry.HasDevice device exact) : ReadsBack hub device exact := by
  obtain ⟨kept, found, essence, equal⟩ := holds
  have own := owned device.id kept found
  rw [← own] at found
  exact ⟨kept, shows_of_get? owned found, Device.beq_iff.mpr essence, equal⟩

section Runs

variable {permitted : Hub Database → Event → Prop}
  {allowed : System Database → System.Event Database → Prop}

/-- A run of events is a run of the system, of steps that are allowed if those of all calls are. -/
theorem Runs.reached {start : System Database} (runs : Runs permitted hub later)
    (reached : hub.Reached allowed start)
    (takes : ∀ hub event call, permitted hub event → event.Asks hub call →
      ∀ system step, call.Takes system step → allowed system step) :
    later.Reached allowed start := by
  induction runs with
  | none => exact reached
  | more _ holds applied ih =>
    rcases Event.call_of_apply applied with rfl | ⟨call, asks, called⟩
    · exact ih
    · obtain ⟨system, before, represents⟩ := ih
      have taken := (represents.call called).mono (takes _ _ call holds asks)
      exact taken.after before

theorem Served.reached (served : Served permitted hub)
    (starts : ∀ settings system step, (Hub.Call.restart settings).Takes system step →
      allowed system step)
    (takes : ∀ hub event call, permitted hub event → event.Asks hub call →
      ∀ system step, call.Takes system step → allowed system step) :
    ∃ options debounce now, hub.Reached allowed (System.first {} options debounce now) := by
  obtain ⟨dispatcher, now, settings, started, opened, runs⟩ := served
  have around : Surroundings.Around { store := ({} : Database), dispatcher, now }
      (System.first {} settings.options settings.debounce now) := ⟨rfl, rfl, rfl⟩
  exact ⟨_, _, _, runs.reached ((Hub.reached_of_start around opened).mono (starts settings)) takes⟩

theorem served_of_start {dispatcher : Dispatcher} {now : Nat} {settings : HubSettings}
    (opened : Hub.start { store := ({} : Database), dispatcher, now } settings = .ok hub) :
    Served permitted hub :=
  ⟨dispatcher, now, settings, hub, opened, .none hub⟩

theorem Served.more (served : Served permitted hub) {event : Event} (holds : permitted hub event)
    (applied : event.apply hub = .ok later) : Served permitted later := by
  obtain ⟨dispatcher, now, settings, started, opened, runs⟩ := served
  exact ⟨dispatcher, now, settings, started, opened, runs.more holds applied⟩

/-- Whatever a hub has served, its registry is sound. -/
theorem Served.represented (served : Served permitted hub) :
    ∃ system, hub.Represents system ∧ system.registry.Sound := by
  obtain ⟨_, _, _, system, reached, represents⟩ := served.reached
    (fun _ _ _ takes => System.undisturbed_of_takes takes fun _ _ same => by cases same)
    (fun _ _ _ _ asks _ _ takes => asks.undisturbed takes)
  exact ⟨system, represents, System.sound_of_reachable reached Registry.sound_empty⟩

/-- What it has served survives being written and read, and the tables hold its registry. -/
theorem Served.stores (served : Served (fun _ event => event.Survives) hub) :
    ∃ system stored, hub.Represents system ∧ system.Stores stored := by
  obtain ⟨_, _, _, system, reached, represents⟩ := served.reached
    (fun _ _ _ takes => System.keepsTables_of_takes takes (fun _ same => by cases same)
      fun _ _ same => by cases same)
    (fun _ _ _ survives asks _ _ takes => asks.keepsTables survives takes)
  obtain ⟨stored, stores⟩ := System.stores_of_reachable reached
  exact ⟨system, stored, represents, stores⟩

end Runs

/-- What the registry holds is shown until somebody edits it or the hub starts again. -/
theorem readsBack_of_runs {system : System Database} (represents : hub.Represents system)
    (sound : system.registry.Sound) (holds : hub.registry.HasDevice device exact)
    (runs : Runs (fun hub event => event.Spares device.id hub ∧ event.GoesOn) hub later) :
    ReadsBack later device exact := by
  have run : later.Reached (fun system step => system.Undisturbed step ∧ step.Leaves device.id ∧
      step.GoesOn) system :=
    runs.reached ⟨system, .start, represents⟩ fun _ _ _ ⟨spares, goesOn⟩ asks _ _ takes =>
      ⟨asks.undisturbed takes, asks.leaves spares takes, asks.goesOn goesOn takes⟩
  obtain ⟨after, reached, represented⟩ := run
  have kept := System.get?_of_reachable sound reached
  rw [represents.registry, represented.registry] at kept
  have owned := System.sound_of_reachable (reached.mono fun _ _ taken => taken.1) sound
  rw [represented.registry] at owned
  exact readsBack_of_hasDevice owned.owned (holds.congr kept)

/-- What registry and tables hold is shown until somebody edits it, and after a start. -/
theorem readsBack_of_carries {system : System Database} {stored : Registry}
    (represents : hub.Represents system) (carries : system.Carries device exact stored)
    (runs : Runs (fun hub event => event.Spares device.id hub ∧ event.Survives) hub later) :
    ReadsBack later device exact ∧
      (later.outside.store.isBroken = false → ∀ settings, ∃ again,
        Hub.start later.outside settings = .ok again ∧ ReadsBack again device exact) := by
  have run : later.Reached (fun system step => system.KeepsTables step ∧ step.Leaves device.id)
      system :=
    runs.reached ⟨system, .start, represents⟩ fun _ _ _ ⟨spares, survives⟩ asks _ _ takes =>
      ⟨asks.keepsTables survives takes, asks.leaves spares takes⟩
  obtain ⟨after, reached, represented⟩ := run
  obtain ⟨stored, carries⟩ := carries.reachable reached
  constructor
  · have holds := carries.published
    have owned := carries.sound.owned
    rw [represented.registry] at holds owned
    exact readsBack_of_hasDevice owned holds
  · intro reachable settings
    have found := carries.load
    have holds := carries.hasDevice_of_load found
    rw [represented.store] at found
    have loads : Storage.loadRegistry later.outside.store = .ok _ :=
      Store.Database.unlessBroken_eq_ok.mpr ⟨reachable, found⟩
    obtain ⟨again, started, registry⟩ := Hub.exists_start loads settings
    refine ⟨again, started, ?_⟩
    have owned := (Store.Tables.sound_of_load found).owned
    rw [← registry] at holds owned
    exact readsBack_of_hasDevice owned holds

/-- Whatever a hub has served: what is put and answered with 200 is shown as it was answered until
somebody edits it. If it is inserted without a change and has a bound that is zero, the zero that is
shown may have another sign. After a start it is shown, too, if all ranges survive; then also a zero
of what was assigned or enabled without a change may have another sign. -/
theorem readsBack_of_put (served : Served (fun _ _ => True) hub) (put : request.method = "PUT")
    (answered : (handle hub request).1.status = 200) :
    ∃ (device : Device) (route : Route) (written : Hub Database),
      handle hub request = (.response (.document 200 device.encode), written) ∧
      Route.ofTarget? request.target = some route ∧ route.deviceText? = some device.id.text ∧
      (∀ later, Runs (fun hub event => event.Spares device.id hub ∧ event.GoesOn) written later →
        ReadsBack later device (device.AvoidsZero ∨
          written.registry.version ≠ hub.registry.version ∨ ∀ text, route ≠ .device text)) ∧
      (Served (fun _ event => event.Survives) hub → (Event.serve request).Survives →
        ∀ later, Runs (fun hub event => event.Spares device.id hub ∧ event.Survives) written later →
          let exact := device.AvoidsZero ∨ written.registry.version ≠ hub.registry.version
          ReadsBack later device exact ∧
            (later.outside.store.isBroken = false → ∀ settings, ∃ again,
              Hub.start later.outside settings = .ok again ∧ ReadsBack again device exact)) := by
  obtain ⟨edit, device, route, routed, asked, edits, done, handled⟩ :=
    handle_put (put ▸ rfl) answered
  obtain ⟨_, represents, sound⟩ := served.represented
  rw [represents.registry] at sound
  refine ⟨device, route, (hub.edit edit.run).2, handled, routed, ?_, ?_, ?_⟩
  · obtain ⟨next, run⟩ := Hub.run_of_edit done
    rw [(DeviceEdit.run_cases sound.owned run).1]
    exact deviceText?_of_deviceEdit? asked
  · intro later runs
    have applied : (Event.serve request).apply hub = .ok (hub.edit edit.run).2 :=
      congrArg Except.ok (congrArg Prod.snd handled)
    obtain ⟨after, represented, sound'⟩ := (served.more trivial applied).represented
    have inserted : (∀ text, route ≠ .device text) → edit ≠ .upsert device := by
      rintro other rfl
      obtain ⟨text, named⟩ := eq_device_of_upsert asked
      exact other text named
    have holds := (Hub.hasDevice_of_edit sound.owned done).mono
      (Or.imp_right (Or.imp_right inserted))
    exact readsBack_of_runs represented sound' holds runs
  · intro durable survives later runs exact
    obtain ⟨system, stored, represents, stores⟩ := durable.stores
    obtain ⟨after, stored, represented, carries⟩ :=
      represents.carries stores (survives edit.edit edits) done
    exact readsBack_of_carries represented carries runs

/-- What is shown of a device may be put back: it is answered with the same, and nothing changes. -/
theorem handle_put_shown (served : Served (fun _ _ => True) hub)
    (found : hub.registry.get? device.id = some device)
    (survives : device.RangeIn ValueRange.Survives) (put : request.method = "PUT")
    (routed : Route.ofTarget? request.target = some (.device (some device.id.text)))
    (declared : (request.contentType.bind MediaType.ofText?).any MediaType.isDocument = true)
    (short : request.body.size ≤ bodyLimit) (written : request.body = device.encode.text.toUTF8) :
    handle hub request = (.response (.document 200 device.encode), hub) := by
  obtain ⟨_, represents, sound⟩ := served.represented
  rw [represents.registry] at sound
  have done : (DeviceEdit.upsert device).run hub.registry = .ok (device, hub.registry) := by
    have same : (hub.registry.get? device.id == some device) = true := by
      rw [found]
      exact Device.beq_iff.mpr rfl
    have upserted : hub.registry.upsert device = .ok hub.registry := by
      unfold Registry.upsert
      rw [sound.placed _ device found, ok_bind, if_pos same]
      rfl
    show ((hub.registry.upsert device).mapError Error.configuration).map (device, ·) = _
    rw [upserted]
    rfl
  have handled : handle hub request =
      handlePut hub request (.device (some device.id.text)) := by
    have method : Method.ofText? request.method = some .put := put ▸ rfl
    have taken : Method.put ∈ (Route.device (some device.id.text)).methods := by
      simp [Route.methods]
    simp only [handle, routed, method, taken, if_true]
  have puts := @handlePut_puts _ _ hub request (.device (some device.id.text))
  rw [deviceEdit?_of_document survives declared short written] at puts
  rw [handled, puts, Hub.edit_of_same done rfl]
  rfl

section Lamp

/-- A lamp with the bounds of a range. -/
def putLamp (min max : String) : Request where
  method := "PUT"
  target := "/api/devices/lamp"
  contentType := some "application/json"
  body := ("\x7b\"value_range\":\x7b\"min\":" ++ min ++ ",\"max\":" ++ max ++
    ",\"unit\":\"level\"\x7d\x7d").toUTF8

def getLamp : Request := ⟨"GET", "/api/devices/lamp", none, .empty⟩

/-- What is written in an answer. -/
def Answer.content? : Answer → Option String
  | .response ⟨_, _, .document value⟩ => some value.text
  | _ => none

/-- Bounds between whole numbers. -/
def putDimmer : Request := putLamp "0.5" "99.5"

theorem survives_putDimmer : (Event.serve putDimmer).Survives := by
  have bounded : putDimmer.edit?.all (fun
      | .upsertDevice device => device.valueRange.all fun range =>
        decide (Decimal.Survives range.min ∧ Decimal.Survives range.max)
      | _ => false) = true := by decide +kernel
  intro edit asked
  have asked : putDimmer.edit? = some edit := asked
  rw [asked] at bounded
  cases edit with
  | upsertDevice device =>
    intro range has
    change device.valueRange.all _ = true at bounded
    rw [has] at bounded
    obtain ⟨min, max⟩ := of_decide_eq_true bounded
    exact ⟨min, max⟩
  | _ => cases bounded

/-- A lamp is put, and it is shown after a while and after a start. -/
theorem readsBack_of_put_dimmer :
    ∃ started again : Hub Database, Hub.start { store := ({} : Database) } {} = .ok started ∧
      let later := (handle started putDimmer).2.passTime 100
      (handle later getLamp).1 = (handle started putDimmer).1 ∧
      Hub.start later.outside {} = .ok again ∧
      (handle again getLamp).1 = (handle started putDimmer).1 := by
  have facts : (Hub.start { store := ({} : Database) } {}).toOption.map (fun started => decide
      ((handle started putDimmer).1.status = 200 ∧
        (handle started putDimmer).2.registry.version ≠ started.registry.version ∧
        ((handle started putDimmer).2.passTime 100).outside.store.isBroken = false)) =
      some true := by decide +kernel
  have routed : Route.ofTarget? "/api/devices/lamp" = some (.device (some "lamp")) := by
    decide +kernel
  obtain ⟨started, opened, facts⟩ := exists_of_toOption_map facts
  obtain ⟨answered, changed, reachable⟩ := of_decide_eq_true facts
  obtain ⟨device, route, written, handled, named, own, _, durable⟩ :=
    readsBack_of_put (served_of_start opened) rfl answered
  cases named.symm.trans routed
  have text : "lamp" = device.id.text := Option.some.inj own
  have waited : Runs (fun hub event => event.Spares device.id hub ∧ event.Survives) written
      (written.passTime 100) := by
    refine (Runs.none written).more ⟨?_, ?_⟩ (show (Event.wait 100).apply written = _ from rfl)
    · intro _ asked
      cases asked
    · intro _ asked
      cases asked
  rw [handled] at changed reachable
  obtain ⟨⟨kept, shows, _, same⟩, starts⟩ := durable (served_of_start opened) survives_putDimmer _
    waited
  obtain ⟨again, restarted, other, showsAgain, _, equal⟩ := starts reachable {}
  cases same (.inr changed)
  cases equal (.inr changed)
  rw [text] at routed
  refine ⟨started, again, opened, ?_, ?_, ?_⟩
  · rw [handled, shows.alone getLamp rfl routed]
  · rw [handled]
    exact restarted
  · rw [handled, showsAgain.alone getLamp rfl routed]

/-- A lower bound of zero is put again with the other sign. -/
def putSigned : Request := putLamp "-0.0" "1"

/-- An upper bound that is another number when it is read again. -/
def putHuge : Request := putLamp "0.5" "7.763101375977537e+64"

/-- What is shown right after a zero was put with the other sign is not what was answered, and
neither is what is shown of a bound that does not survive when the hub has started again. -/
theorem exists_put_not_readBack :
    (∃ hub : Hub Database, Served (fun _ _ => True) hub ∧ (handle hub putSigned).1.status = 200 ∧
      (handle (handle hub putSigned).2 getLamp).1 ≠ (handle hub putSigned).1) ∧
    ∃ hub again : Hub Database, Served (fun _ _ => True) hub ∧ (handle hub putHuge).1.status = 200 ∧
      Hub.start (handle hub putHuge).2.outside {} = .ok again ∧
      (handle again getLamp).1 ≠ (handle hub putHuge).1 := by
  constructor
  · have facts : (Hub.start { store := ({} : Database) } {}).toOption.map (fun started => decide <|
        let hub := (handle started (putLamp "0.0" "1")).2
        (handle hub putSigned).1.status = 200 ∧
          (handle (handle hub putSigned).2 getLamp).1.content? ≠
            (handle hub putSigned).1.content?) = some true := by decide +kernel
    obtain ⟨started, opened, facts⟩ := exists_of_toOption_map facts
    obtain ⟨answered, differs⟩ := of_decide_eq_true facts
    have served : Served (fun _ _ => True) started := served_of_start opened
    have applied : (Event.serve (putLamp "0.0" "1")).apply started = _ := rfl
    exact ⟨_, served.more trivial applied, answered,
      fun same => differs (congrArg Answer.content? same)⟩
  · have facts : (Hub.start { store := ({} : Database) } {}).toOption.map (fun started =>
        (Hub.start (handle started putHuge).2.outside {}).toOption.map fun again => decide
          ((handle started putHuge).1.status = 200 ∧
            (handle again getLamp).1.content? ≠ (handle started putHuge).1.content?)) =
        some (some true) := by decide +kernel
    obtain ⟨started, opened, facts⟩ := exists_of_toOption_map facts
    obtain ⟨again, restarted, facts⟩ := exists_of_toOption_map facts
    obtain ⟨answered, differs⟩ := of_decide_eq_true facts
    exact ⟨started, again, served_of_start opened, answered, restarted,
      fun same => differs (congrArg Answer.content? same)⟩

end Lamp

end HomeVoice.Api
