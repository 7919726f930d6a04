import HomeVoice.Hub.Dispatcher
import HomeVoice.Hub.Editing
import HomeVoice.Hub.Worker

/-!
# The hub

The hub puts the parts together: the published registry with its store, the grammar worker and the
execution of commands. Its clock counts milliseconds. Between two calls everything that can be
done without waiting is done; time passes only when a caller lets it pass or while a request is
out, and the worker's deadline is met at its moment.
-/

namespace HomeVoice

open Hub (Dispatcher Edit RegistryEdit Worker)
open Time (Timestamp)

/-- What the hub is set up with; durations in milliseconds. -/
structure HubSettings where
  options : GrammarOptions := {}
  debounce : Nat := 500
  timeout : Nat := 1000
  deriving Repr

/-- What is outside of the hub and stays when it starts again. -/
structure Surroundings (σ : Type) where
  store : σ
  dispatcher : Dispatcher := .succeeding
  /-- The requests that were handed over. -/
  dispatched : List DispatchRequest := []
  now : Nat := 0

/-- The running hub. -/
structure Hub (σ : Type) where
  outside : Surroundings σ
  /-- The registry that was published last. -/
  registry : Registry
  /-- The registry can be read and edited. -/
  isOpen : Bool := true
  worker : Worker
  timeout : Nat

namespace Surroundings

variable {σ : Type}

/-- The clock as a point in time. -/
def time (outside : Surroundings σ) : Timestamp :=
  ⟨outside.now / 1000, outside.now % 1000 * 1000000⟩

end Surroundings

namespace Hub

/-- Resolve what the engine wrote against the active grammar of a worker. -/
def Worker.resolve (worker : Worker) (text : String) : Except Error DispatchRequest :=
  match worker.artifact with
  | none => .error (.integrity .noActiveGrammar)
  | some artifact => do (← Command.parse text).resolve artifact

variable {σ α : Type} [Storage σ]

/-- Generate a grammar for the published registry, cache it if the cache lets one, and publish
it. -/
def attempt (hub : Hub σ) : Except Error Artifact × Hub σ :=
  let result := hub.registry.generate hub.worker.options hub.outside.time
  let store := hub.outside.store
  let store := match result with
    | .ok artifact => (Storage.storeArtifact store artifact).toOption.getD store
    | .error _ => store
  (result, { hub with
    outside := { hub.outside with store }
    worker := hub.worker.conclude hub.registry result hub.outside.time })

/-- The deadline is reached: generate unless the active grammar is that of the registry. -/
def fire (hub : Hub σ) : Hub σ :=
  let hub := { hub with worker := { hub.worker with deadline := none } }
  if hub.worker.isCurrent hub.registry then hub else hub.attempt.2

/-- Do what is due. -/
def settle (hub : Hub σ) : Hub σ :=
  match hub.worker.deadline with
  | some deadline => if deadline ≤ hub.outside.now then hub.fire else hub
  | none => hub

/-- The clock is set forward. -/
def setClock (hub : Hub σ) (now : Nat) : Hub σ :=
  { hub with outside := { hub.outside with now } }

/-- Let time pass. The deadline of the worker, if it comes in that time, is met on the way. -/
def passTime (hub : Hub σ) (ms : Nat) : Hub σ :=
  let target := hub.outside.now + ms
  match hub.worker.deadline with
  | some deadline =>
    if deadline ≤ target then
      ((hub.setClock (max deadline hub.outside.now)).fire).setClock target
    else hub.setClock target
  | none => hub.setClock target

/-- Start on given surroundings: load the registry, ask the cache for its grammar and do what is
due. -/
def start (outside : Surroundings σ) (settings : HubSettings) : Except Error (Hub σ) := do
  let registry := ((← (Storage.loadRegistry outside.store).mapError .storage).getD .empty)
  let cached := Storage.loadArtifact outside.store registry.version settings.options
  let worker : Worker := { options := settings.options, debounce := settings.debounce }
  let hub : Hub σ := {
    outside := { outside with store := Storage.noteLookup outside.store }
    registry
    worker := worker.start registry cached outside.now outside.time
    timeout := settings.timeout }
  return hub.settle

/-- Edit the registry. -/
def edit (hub : Hub σ) (edit : Edit α) : Except Error α × Hub σ :=
  match applyEdit hub.outside.store hub.registry edit with
  | .error error => (.error error, hub)
  | .ok (answer, registry, store) =>
    if registry.version = hub.registry.version then (.ok answer, hub)
    else
      let published := { hub with
        outside := { hub.outside with store }
        registry
        worker := hub.worker.noticeEdit hub.outside.now }
      (.ok answer, published.settle)

/-- Insert or replace a device. -/
def upsertDevice (hub : Hub σ) (device : Device) : Except Error Device × Hub σ :=
  hub.edit (RegistryEdit.upsertDevice device).run

/-- Enable or disable a device. -/
def setEnabled (hub : Hub σ) (id : DeviceId) (enabled : Bool) : Except Error Device × Hub σ :=
  hub.edit (RegistryEdit.setEnabled id enabled).run

/-- Give a device a type and a location. -/
def assign (hub : Hub σ) (id : DeviceId) (deviceType : DeviceType) (location : Location) :
    Except Error Device × Hub σ :=
  hub.edit (RegistryEdit.assign id deviceType location).run

/-- Declare a device type. -/
def addDeviceType (hub : Hub σ) (deviceType : DeviceType) (actions : List Action) :
    Except Error Unit × Hub σ :=
  hub.edit (RegistryEdit.addDeviceType deviceType actions).run

/-- Declare a location; whether it is new. -/
def addLocation (hub : Hub σ) (location : Location) : Except Error Bool × Hub σ :=
  hub.edit (RegistryEdit.addLocation location).run

/-- Import a batch of devices in one edit. -/
def importDevices (hub : Hub σ) (batch : List ImportedDevice) :
    Except Error ImportReport × Hub σ :=
  hub.edit (RegistryEdit.importDevices batch).run

omit [Storage σ] in
/-- The device with this identifier. -/
def device (hub : Hub σ) (id : DeviceId) : Except Error Device :=
  match hub.registry.get? id with
  | some device => .ok device
  | none => .error (.noDevice id)

/-- Generate at once from the published registry. -/
def regenerate (hub : Hub σ) : Except Error Artifact × Hub σ :=
  if hub.worker.isRunning then
    { hub with worker := { hub.worker with deadline := none } }.attempt
  else (.error (.integrity .generatorStopped), hub)

omit [Storage σ] in
/-- Resolve what the engine wrote against the active grammar. -/
def resolve (hub : Hub σ) (text : String) : Except Error DispatchRequest :=
  hub.worker.resolve text

/-- Resolve what the engine wrote and hand the request over. -/
def execute (hub : Hub σ) (text : String) : Except Error DispatchRequest × Hub σ :=
  match hub.resolve text with
  | .error error => (.error error, hub)
  | .ok request =>
    let (outcome, wait) := hub.outside.dispatcher.outcome hub.timeout
    let handed := { hub with
      outside := { hub.outside with dispatched := hub.outside.dispatched ++ [request] } }
    (outcome.map fun _ => request, handed.passTime wait)

omit [Storage σ] in
/-- No more reading and editing of the registry; the worker stops, its grammar goes on serving. -/
def close (hub : Hub σ) : Hub σ := { hub with isOpen := false, worker := hub.worker.stop }

end Hub

end HomeVoice
