import HomeVoice.Proofs.Registry.Same

/-!
# Editing a registry in place

An edit gives an error or the registry after it, so it cannot leave a registry half changed. Here
the edits are written once more as steps on one registry that is changed in place, where a failure
undoes nothing of what was written before it, and where fields are written even if they stay what
they are. Each of them comes to the same as the edit: it checks before it writes anything, and what
it writes without a change of the version is what was there. A registry is restored in place, too,
and nobody sees what a failure leaves of that one.
-/

namespace HomeVoice

namespace SortedMap

variable {κ ν : Type} [LT κ] [DecidableEq κ] [DecidableLT κ] [KeyOrder κ]

/-- An entry that is there already changes nothing. -/
theorem insert_of_get? {map : SortedMap κ ν} {key : κ} {value : ν}
    (here : map.get? key = some value) : map.insert key value = map := by
  apply ext
  intro other
  rw [get?_insert]
  split
  next same => exact same ▸ here.symm
  · rfl

end SortedMap

namespace Registry

/-- Steps on a registry that is changed in place; a failure leaves the registry as it is then. -/
abbrev InPlace := EStateM Error Registry

namespace InPlace

/-- A check that changes nothing. -/
def check (test : Registry → Except ConfigurationError Unit) : InPlace Unit := fun registry =>
  match test registry with
  | .ok _ => .ok () registry
  | .error error => .error (.configuration error) registry

/-- Something that must hold before the steps go on. -/
def require (holds : Registry → Bool) (error : Error) : InPlace Unit := fun registry =>
  if holds registry then .ok () registry else .error error registry

/-- Write a device under an identifier. -/
def write (id : DeviceId) (device : Device) : InPlace Unit :=
  modify fun registry => { registry with devices := registry.devices.insert id device }

/-- Raise the version if something was changed. -/
def bumpIf (changed : Prop) [Decidable changed] : InPlace Unit :=
  modify fun registry => if changed then registry.bump else registry

def upsert (device : Device) : InPlace Unit := do
  check (·.checkMembership device)
  if (← get).get? device.id == some device then return
  write device.id device
  bumpIf True

def setEnabled (id : DeviceId) (enabled : Bool) : InPlace Device := do
  let some device := (← get).get? id | throw (.noDevice id)
  let changed := { device with enabled }
  write id changed
  bumpIf (device.enabled ≠ enabled)
  return changed

def assign (id : DeviceId) (deviceType : DeviceType) (location : Location) : InPlace Device := do
  require (·.knowsType deviceType) (.configuration (.unknownType deviceType))
  require (·.knowsLocation location) (.configuration (.unknownLocation location))
  let some device := (← get).get? id | throw (.noDevice id)
  let changed := { device with deviceType := some deviceType, location := some location }
  write id changed
  bumpIf (device.deviceType ≠ some deviceType ∨ device.location ≠ some location)
  return changed

/-- Repeated actions are dropped before it is looked at whether there are any. The name of the type
and its vocabulary are written one after the other. -/
def insertType (deviceType : DeviceType) (actions : List Action) : InPlace Unit := do
  require (!·.knowsType deviceType) (.configuration (.duplicateType deviceType))
  let kept := Action.distinct actions
  require (fun _ => !kept.isEmpty) (.configuration (.emptyVocabulary deviceType))
  modify fun registry => { registry with customTypes := registry.customTypes.add deviceType }
  modify fun registry =>
    { registry with deviceTypes := registry.deviceTypes.insert deviceType kept }

def addType (deviceType : DeviceType) (actions : List Action) : InPlace Unit := do
  insertType deviceType actions
  bumpIf True

/-- Add a location; whether it is new. -/
def addLocation (location : Location) : InPlace Bool := do
  let new := !(← get).knowsLocation location
  modify fun registry => { registry with locations := registry.locations.add location }
  bumpIf new
  return new

/-- Fill a registry with given parts. -/
def restore (version : UInt64) (types : List (DeviceType × List Action))
    (locations : List Location) (devices : List Device) : InPlace Unit := do
  types.forM fun entry => insertType entry.1 entry.2
  modify fun registry =>
    { registry with locations := locations.foldl SortedSet.add registry.locations }
  devices.forM fun device => do
    check (·.checkMembership device)
    write device.id device
  modify fun registry => { registry with version }

section Apply

variable {α β : Type} (registry : Registry)

theorem bind_apply (steps : InPlace α) (next : α → InPlace β) :
    (steps >>= next) registry =
      match steps registry with
      | .ok answer after => next answer after
      | .error error after => .error error after := by
  show EStateM.bind _ _ _ = _
  unfold EStateM.bind
  cases steps registry <;> rfl

theorem pure_apply (answer : α) : (pure answer : InPlace α) registry = .ok answer registry := rfl

theorem get_apply : (get : InPlace Registry) registry = .ok registry registry := rfl

theorem modify_apply (change : Registry → Registry) :
    (modify change : InPlace Unit) registry = .ok () (change registry) := rfl

variable {registry} {error : Error}

theorem require_of (holds : Registry → Bool) (passed : holds registry = true) :
    require holds error registry = .ok () registry := if_pos passed

theorem require_of_not (holds : Registry → Bool) (failed : ¬ holds registry = true) :
    require holds error registry = .error error registry := if_neg failed

end Apply

end InPlace

/-- What steps in place come to if the edit has this outcome. -/
def settle {α : Type} (registry : Registry) :
    Except Error (α × Registry) → EStateM.Result Error Registry α
  | .ok (answer, next) => .ok answer next
  | .error error => .error error registry

section Agreement

open InPlace (bind_apply pure_apply get_apply modify_apply require_of require_of_not)

variable {registry : Registry}

theorem upsert_inPlace (device : Device) :
    InPlace.upsert device registry =
      registry.settle (((registry.upsert device).mapError .configuration).map ((), ·)) := by
  unfold InPlace.upsert Registry.upsert
  rw [bind_apply, InPlace.check]
  cases registry.checkMembership device with
  | error error => rfl
  | ok _ =>
    simp only [bind_apply, get_apply, ok_bind]
    by_cases same : (registry.get? device.id == some device) = true
    · rw [if_pos same, if_pos same]
      rfl
    · rw [if_neg same, if_neg same]
      rfl

/-- Writing what is there already changes nothing. -/
theorem write_of_get? {id : DeviceId} {device : Device} (found : registry.get? id = some device) :
    { registry with devices := registry.devices.insert id device } = registry := by
  rw [SortedMap.insert_of_get? found]

theorem setEnabled_inPlace (owned : registry.OwnsIds) (id : DeviceId) (enabled : Bool) :
    InPlace.setEnabled id enabled registry = registry.settle (registry.setEnabled id enabled) := by
  unfold InPlace.setEnabled Registry.setEnabled
  simp only [bind_apply, get_apply]
  cases found : registry.get? id with
  | none => rfl
  | some device =>
    have own : device.id = id := owned id device found
    simp only [InPlace.write, InPlace.bumpIf, bind_apply, modify_apply, pure_apply]
    by_cases same : device.enabled = enabled
    · subst same
      rw [if_neg (fun apart => apart rfl), if_pos rfl, write_of_get? found]
      rfl
    · rw [if_pos same, if_neg same, ← own]
      rfl

theorem assign_inPlace (owned : registry.OwnsIds) (id : DeviceId) (deviceType : DeviceType)
    (location : Location) :
    InPlace.assign id deviceType location registry =
      registry.settle (registry.assign id deviceType location) := by
  unfold InPlace.assign Registry.assign
  by_cases type : registry.knowsType deviceType = true
  · rw [bind_apply, require_of (·.knowsType deviceType) type, if_pos type]
    by_cases place : registry.knowsLocation location = true
    · simp only [bind_apply, get_apply]
      rw [require_of (·.knowsLocation location) place, if_pos place]
      dsimp only
      cases found : registry.get? id with
      | none => rfl
      | some device =>
        have own : device.id = id := owned id device found
        simp only [InPlace.write, InPlace.bumpIf, bind_apply, modify_apply, pure_apply]
        by_cases same : device.deviceType = some deviceType ∧ device.location = some location
        · have written : { device with deviceType := some deviceType, location := some location } =
              device := by
            rw [← same.1, ← same.2]
          rw [if_neg (by simp [same]), if_pos same, written, write_of_get? found]
          rfl
        · rw [if_pos (Decidable.not_and_iff_or_not.mp same), if_neg same, ← own]
          rfl
    · dsimp only
      rw [bind_apply, require_of_not (·.knowsLocation location) place, if_neg place]
      rfl
  · rw [bind_apply, require_of_not (·.knowsType deviceType) type, if_neg type]
    rfl

theorem insertType_inPlace (deviceType : DeviceType) (actions : List Action) :
    InPlace.insertType deviceType actions registry =
      registry.settle
        (((registry.insertType deviceType actions).mapError .configuration).map ((), ·)) := by
  unfold InPlace.insertType Registry.insertType
  by_cases known : registry.knowsType deviceType = true
  · rw [bind_apply, require_of_not (!·.knowsType deviceType) (by simp [known]), if_pos known]
    rfl
  · rw [bind_apply, require_of (!·.knowsType deviceType) (by simp [known]), if_neg known]
    dsimp only
    cases actions with
    | nil => rfl
    | cons action rest =>
      have kept := Action.distinct_ne_nil (List.cons_ne_nil action rest)
      rw [bind_apply,
        require_of (fun _ => !(Action.distinct (action :: rest)).isEmpty) (by simp [kept])]
      rfl

theorem addType_inPlace (deviceType : DeviceType) (actions : List Action) :
    InPlace.addType deviceType actions registry =
      registry.settle
        (((registry.addType deviceType actions).mapError .configuration).map ((), ·)) := by
  unfold InPlace.addType Registry.addType
  rw [bind_apply, insertType_inPlace]
  cases registry.insertType deviceType actions <;> rfl

theorem addLocation_inPlace (location : Location) :
    InPlace.addLocation location registry =
      registry.settle (.ok (registry.addLocation location)) := by
  unfold InPlace.addLocation Registry.addLocation
  simp only [InPlace.bumpIf, bind_apply, get_apply, modify_apply, pure_apply]
  by_cases known : registry.knowsLocation location = true
  · obtain ⟨_, here⟩ := SortedMap.contains_iff.mp known
    rw [if_pos known, SortedSet.add, SortedMap.insert_of_get? here, known]
    rfl
  · rw [if_neg known, Bool.eq_false_iff.mpr known]
    rfl

end Agreement

section Restoring

open InPlace (bind_apply)

/-- The registry that steps in place come to, or the error with which they fail. -/
def InPlace.result (steps : InPlace Unit) (registry : Registry) : Except Error Registry :=
  match steps registry with
  | .ok _ next => .ok next
  | .error error _ => .error error

variable {registry : Registry}

theorem InPlace.result_bind (steps : InPlace Unit) (further : Unit → InPlace Unit) :
    (steps >>= further).result registry = steps.result registry >>= (further ()).result := by
  unfold InPlace.result
  rw [bind_apply]
  cases steps registry <;> rfl

theorem InPlace.result_forM {α : Type} (step : α → InPlace Unit) (items : List α) :
    (items.forM step).result registry =
      items.foldlM (fun registry item => (step item).result registry) registry := by
  induction items generalizing registry with
  | nil => rfl
  | cons item rest ih =>
    show (step item >>= fun _ => rest.forM step).result registry = _
    rw [InPlace.result_bind, List.foldlM_cons]
    exact bind_congr fun _ => ih

theorem InPlace.result_of_settle {steps : InPlace Unit} {outcome : Except Error Registry}
    (same : steps registry = registry.settle (outcome.map ((), ·))) :
    steps.result registry = outcome := by
  unfold InPlace.result
  rw [same]
  cases outcome <;> rfl

theorem InPlace.result_insertTypes (types : List (DeviceType × List Action)) :
    (types.forM fun entry => InPlace.insertType entry.1 entry.2).result registry =
      (types.foldlM (fun (registry : Registry) entry => registry.insertType entry.1 entry.2)
        registry).mapError .configuration := by
  rw [result_forM, ← foldlM_mapError]
  congr
  funext registry entry
  exact result_of_settle (insertType_inPlace entry.1 entry.2)

theorem InPlace.result_putDevices (devices : List Device) :
    (devices.forM fun device => do
        check (·.checkMembership device)
        write device.id device).result registry =
      (devices.foldlM (fun (registry : Registry) device => do
        registry.checkMembership device
        return registry.put device) registry).mapError .configuration := by
  rw [result_forM, ← foldlM_mapError]
  congr
  funext registry device
  unfold result
  rw [bind_apply, check]
  cases registry.checkMembership device <;> rfl

/-- Filling a new registry in place comes to restoring one. -/
theorem restore_inPlace (version : UInt64) (types : List (DeviceType × List Action))
    (locations : List Location) (devices : List Device) :
    (InPlace.restore version types locations devices).result .empty =
      (Registry.restore version types locations devices).mapError .configuration := by
  unfold InPlace.restore Registry.restore
  rw [InPlace.result_bind, InPlace.result_insertTypes]
  cases types.foldlM (fun registry entry => registry.insertType entry.1 entry.2) empty with
  | error error => rfl
  | ok withTypes =>
    rw [mapError_ok, ok_bind, ok_bind, InPlace.result_bind]
    show (do devices.forM _; _ : InPlace Unit).result { withTypes with
      locations := locations.foldl SortedSet.add withTypes.locations } = _
    rw [InPlace.result_bind, InPlace.result_putDevices]
    dsimp only
    cases devices.foldlM (fun registry device => do
      registry.checkMembership device
      return registry.put device) { withTypes with
        locations := locations.foldl SortedSet.add withTypes.locations } <;> rfl

end Restoring

/-- The edits that touch one device, one type or one location. -/
inductive Operation where
  | upsert (device : Device)
  | setEnabled (id : DeviceId) (enabled : Bool)
  | assign (id : DeviceId) (deviceType : DeviceType) (location : Location)
  | addType (deviceType : DeviceType) (actions : List Action)
  | addLocation (location : Location)

namespace Operation

/-- The steps of the edit in place. -/
def perform : Operation → InPlace Unit
  | upsert device => InPlace.upsert device
  | setEnabled id enabled => do let _ ← InPlace.setEnabled id enabled
  | assign id deviceType location => do let _ ← InPlace.assign id deviceType location
  | addType deviceType actions => InPlace.addType deviceType actions
  | addLocation location => do let _ ← InPlace.addLocation location

/-- The registry that the edit gives. -/
def run (registry : Registry) : Operation → Except Error Registry
  | upsert device => (registry.upsert device).mapError .configuration
  | setEnabled id enabled => (registry.setEnabled id enabled).map (·.2)
  | assign id deviceType location => (registry.assign id deviceType location).map (·.2)
  | addType deviceType actions => (registry.addType deviceType actions).mapError .configuration
  | addLocation location => .ok (registry.addLocation location).2

/-- The registry after the steps, whether they succeed or fail. -/
def after (registry : Registry) (operation : Operation) : Registry :=
  match operation.perform registry with
  | .ok _ next => next
  | .error _ left => left

variable {registry next : Registry}

section Runs

variable {id : DeviceId} {device : Device} {deviceType : DeviceType} {location : Location}

theorem run_upsert_eq_ok :
    (upsert device).run registry = .ok next ↔ registry.upsert device = .ok next := by
  rw [run, mapError_eq_ok]

theorem run_setEnabled_eq_ok {enabled : Bool} :
    (setEnabled id enabled).run registry = .ok next ↔
      ∃ changed, registry.setEnabled id enabled = .ok (changed, next) := by
  rw [run, map_eq_ok]
  simp

theorem run_assign_eq_ok :
    (assign id deviceType location).run registry = .ok next ↔
      ∃ changed, registry.assign id deviceType location = .ok (changed, next) := by
  rw [run, map_eq_ok]
  simp

theorem run_addType_eq_ok {actions : List Action} :
    (addType deviceType actions).run registry = .ok next ↔
      registry.addType deviceType actions = .ok next := by
  rw [run, mapError_eq_ok]

end Runs

/-- Steps whose answer nobody looks at. -/
private theorem forget_apply {α : Type} {steps : InPlace α} {outcome : Except Error (α × Registry)}
    (same : steps registry = registry.settle outcome) :
    (do let _ ← steps : InPlace Unit) registry =
      registry.settle ((outcome.map (·.2)).map ((), ·)) := by
  rw [InPlace.bind_apply, same]
  cases outcome <;> rfl

/-- The steps in place come to what the edit gives, and to nothing if it fails. -/
theorem perform_eq (owned : registry.OwnsIds) (operation : Operation) :
    operation.perform registry = registry.settle ((operation.run registry).map ((), ·)) := by
  cases operation with
  | upsert device =>
    rw [perform, run]
    exact upsert_inPlace device
  | setEnabled id enabled =>
    rw [perform, run]
    exact forget_apply (setEnabled_inPlace owned id enabled)
  | assign id deviceType location =>
    rw [perform, run]
    exact forget_apply (assign_inPlace owned id deviceType location)
  | addType deviceType actions =>
    rw [perform, run]
    exact addType_inPlace deviceType actions
  | addLocation location =>
    rw [perform, run]
    exact forget_apply (addLocation_inPlace location)

theorem after_of_ok (owned : registry.OwnsIds) {operation : Operation}
    (done : operation.run registry = .ok next) : operation.after registry = next := by
  unfold after
  rw [perform_eq owned, done]
  rfl

theorem after_of_error (owned : registry.OwnsIds) {operation : Operation} {error : Error}
    (failed : operation.run registry = .error error) : operation.after registry = registry := by
  unfold after
  rw [perform_eq owned, failed]
  rfl

end Operation

end Registry

end HomeVoice
