import HomeVoice.Grammar.Artifact
import HomeVoice.Hub.Editing
import HomeVoice.Proofs.Registry.Runs

/-!
# Edits of different devices commute

An edit of a device looks at that device and at what types and locations are known, and it writes
that device and raises the version. So of two edits of different devices neither sees the other,
and whatever the order of the edits of several devices, as long as those of each device stay in
their order, every edit has its outcome and the registry is the same at the end.
-/

namespace HomeVoice

section Reordering

variable {σ ε κ : Type} {step : σ → ε → σ} {key : ε → κ} {Holds : σ → Prop}

/-- Where this holds, steps with different keys may change places, and it goes on holding. -/
structure Commutes (Holds : σ → Prop) (key : ε → κ) (step : σ → ε → σ) : Prop where
  kept : ∀ state item, Holds state → Holds (step state item)
  swap : ∀ state first second, Holds state → key first ≠ key second →
    step (step state first) second = step (step state second) first

/-- A step is taken before all those of other keys in front of it. -/
theorem Commutes.hoist (commutes : Commutes Holds key step) {item : ε} {front : List ε}
    (behind : List ε) (apart : ∀ other ∈ front, key other ≠ key item) {state : σ}
    (holds : Holds state) :
    (front ++ item :: behind).foldl step state =
      (front ++ behind).foldl step (step state item) := by
  induction front generalizing state with
  | nil => rfl
  | cons head rest ih =>
    have ⟨here, later⟩ := List.forall_mem_cons.mp apart
    show (rest ++ item :: behind).foldl step (step state head) =
      (rest ++ behind).foldl step (step (step state item) head)
    rw [ih later (commutes.kept state head holds), commutes.swap state head item holds here]

/-- The order of the steps does not matter as long as those of each key keep theirs. -/
theorem Commutes.foldl_eq [DecidableEq κ] (commutes : Commutes Holds key step)
    {items others : List ε}
    (same : ∀ wanted, items.filter (key · = wanted) = others.filter (key · = wanted))
    {start : σ} (holds : Holds start) : items.foldl step start = others.foldl step start := by
  induction items generalizing others start with
  | nil =>
    have nothing : others = [] := by
      refine List.eq_nil_iff_forall_not_mem.mpr fun other member => ?_
      have listed : other ∈ others.filter (key · = key other) :=
        List.mem_filter.mpr ⟨member, decide_eq_true rfl⟩
      rw [← same] at listed
      cases listed
    rw [nothing]
  | cons item rest ih =>
    -- among the others the first step of this key stands behind steps of other keys only
    have own : item :: rest.filter (key · = key item) = others.filter (key · = key item) := by
      rw [← same, List.filter_cons_of_pos (by simp)]
    obtain ⟨front, behind, rfl, before, _, others⟩ := List.filter_eq_cons_iff.mp own.symm
    have apart : ∀ other ∈ front, key other ≠ key item := fun other member here =>
      before other member (decide_eq_true here)
    rw [commutes.hoist behind apart holds]
    refine ih (fun wanted => ?_) (commutes.kept start item holds)
    by_cases here : key item = wanted
    · have none : front.filter (key · = wanted) = [] :=
        List.filter_eq_nil_iff.mpr fun other member there =>
          apart other member ((of_decide_eq_true there).trans here.symm)
      rw [List.filter_append, none, List.nil_append, ← here]
      exact others.symm
    · have whole := same wanted
      rwa [List.filter_append, List.filter_cons_of_neg (by simpa using here),
        List.filter_cons_of_neg (by simpa using here), ← List.filter_append] at whole

end Reordering

/-- The edits that concern one device. -/
inductive DeviceEdit where
  | upsert (device : Device)
  | setEnabled (id : DeviceId) (enabled : Bool)
  | assign (id : DeviceId) (deviceType : DeviceType) (location : Location)

namespace DeviceEdit

/-- The device that is edited. -/
def id : DeviceEdit → DeviceId
  | upsert device => device.id
  | setEnabled id _ => id
  | assign id _ _ => id

/-- The edit as the hub offers it. -/
def run : DeviceEdit → Hub.Edit Device
  | upsert device => (Hub.RegistryEdit.upsertDevice device).run
  | setEnabled id enabled => (Hub.RegistryEdit.setEnabled id enabled).run
  | assign id deviceType location => (Hub.RegistryEdit.assign id deviceType location).run

/-- The outcome of the edit and the registry after it, which is as it was if the edit fails. -/
def perform (edit : DeviceEdit) (registry : Registry) : Except Error Device × Registry :=
  match edit.run registry with
  | .ok (device, next) => (.ok device, next)
  | .error error => (.error error, registry)

/-- The edit among all edits of a registry. -/
def operation : DeviceEdit → Registry.Operation
  | upsert device => .upsert device
  | setEnabled id enabled => .setEnabled id enabled
  | assign id deviceType location => .assign id deviceType location

/-- What the edit makes of the device, and whether that is a change. -/
def verdict (registry : Registry) : DeviceEdit → Except Error (Device × Bool)
  | upsert device =>
    (registry.checkMembership device).mapError .configuration |>.map fun _ =>
      (device, !(registry.get? device.id == some device))
  | setEnabled id enabled =>
    match registry.get? id with
    | none => .error (.noDevice id)
    | some device => .ok ({ device with enabled }, device.enabled ≠ enabled)
  | assign id deviceType location =>
    if registry.knowsType deviceType then
      if registry.knowsLocation location then
        match registry.get? id with
        | none => .error (.noDevice id)
        | some device =>
          .ok ({ device with deviceType := some deviceType, location := some location },
            ¬ (device.deviceType = some deviceType ∧ device.location = some location))
      else .error (.configuration (.unknownLocation location))
    else .error (.configuration (.unknownType deviceType))

end DeviceEdit

/-- The registry after a verdict: with the device in its place, if that is a change. -/
def Registry.accept (registry : Registry) : Except Error (Device × Bool) → Registry
  | .ok (device, true) => (registry.put device).bump
  | _ => registry

namespace DeviceEdit

variable {registry : Registry} {first second : DeviceEdit}

/-- All that an edit does follows from its verdict. -/
theorem run_eq (edit : DeviceEdit) (registry : Registry) :
    edit.run registry = (edit.verdict registry).map fun made =>
      (made.1, registry.accept (.ok made)) := by
  cases edit with
  | upsert device =>
    show ((registry.upsert device).mapError Error.configuration).map (device, ·) = _
    simp only [Registry.upsert, verdict]
    cases registry.checkMembership device with
    | error error => rfl
    | ok _ =>
      rw [ok_bind]
      cases registry.get? device.id == some device <;> rfl
  | setEnabled id enabled =>
    show registry.setEnabled id enabled = _
    simp only [Registry.setEnabled, verdict]
    cases registry.get? id with
    | none => rfl
    | some device =>
      by_cases same : device.enabled = enabled <;> simp [same, Except.map, Registry.accept]
  | assign id deviceType location =>
    show registry.assign id deviceType location = _
    simp only [Registry.assign, verdict]
    by_cases type : registry.knowsType deviceType = true
    · rw [if_pos type, if_pos type]
      by_cases place : registry.knowsLocation location = true
      · simp only [if_pos place]
        cases registry.get? id with
        | none => rfl
        | some device =>
          by_cases same : device.deviceType = some deviceType ∧ device.location = some location <;>
            simp [same, Except.map, Registry.accept, pure, Except.pure]
      · simp only [if_neg place]
        rfl
    · rw [if_neg type, if_neg type]
      rfl

theorem perform_eq (edit : DeviceEdit) (registry : Registry) :
    edit.perform registry =
      ((edit.verdict registry).map (·.1), registry.accept (edit.verdict registry)) := by
  unfold perform
  rw [run_eq]
  cases edit.verdict registry <;> rfl

/-- The device of a verdict is the one that is edited. -/
theorem id_of_verdict (owned : registry.OwnsIds) {edit : DeviceEdit} {device : Device}
    {changed : Bool} (made : edit.verdict registry = .ok (device, changed)) :
    device.id = edit.id := by
  cases edit with
  | upsert device =>
    obtain ⟨_, _, same⟩ := map_eq_ok.mp made
    cases same
    rfl
  | setEnabled id enabled =>
    simp only [verdict] at made
    split at made
    · cases made
    next device found =>
      cases made
      exact owned id device found
  | assign id deviceType location =>
    simp only [verdict] at made
    split at made
    · split at made
      · split at made
        · cases made
        next device found =>
          cases made
          exact owned id device found
      · cases made
    · cases made

/-- A verdict looks at the edited device, the types and the locations, and at nothing else. -/
theorem verdict_congr {first second : Registry} (edit : DeviceEdit)
    (found : first.get? edit.id = second.get? edit.id)
    (deviceTypes : first.deviceTypes = second.deviceTypes)
    (locations : first.locations = second.locations) :
    edit.verdict first = edit.verdict second := by
  have types := Registry.knowsType_congr deviceTypes
  have places := Registry.knowsLocation_congr locations
  cases edit with
  | upsert device =>
    have fits : first.checkMembership device = second.checkMembership device := by
      unfold Registry.checkMembership
      simp only [types, places]
    have stored : first.get? device.id = second.get? device.id := found
    simp only [verdict, fits, stored]
  | setEnabled id enabled =>
    have stored : first.get? id = second.get? id := found
    simp only [verdict, stored]
  | assign id deviceType location =>
    have stored : first.get? id = second.get? id := found
    simp only [verdict, types, places, stored]

/-- An edit has the verdict that it would have without an edit of another device before it. -/
theorem verdict_accept (owned : registry.OwnsIds) (apart : first.id ≠ second.id) :
    second.verdict (registry.accept (first.verdict registry)) = second.verdict registry := by
  unfold Registry.accept
  split
  next device made =>
    refine second.verdict_congr ?_ rfl rfl
    rw [Registry.get?_bump, Registry.get?_put, id_of_verdict owned made, if_neg apart]
  · rfl

end DeviceEdit

/-- Devices with different identifiers are written in either order. -/
theorem Registry.accept_comm {first second : Except Error (Device × Bool)}
    (apart : ∀ one other, first = .ok one → second = .ok other → one.1.id ≠ other.1.id)
    (registry : Registry) :
    (registry.accept first).accept second = (registry.accept second).accept first := by
  rcases first with _ | ⟨device, _ | _⟩ <;> rcases second with _ | ⟨other, _ | _⟩ <;> try rfl
  have places := SortedMap.insert_comm (apart _ _ rfl rfl) registry.devices device other
  show (((registry.put device).bump).put other).bump = (((registry.put other).bump).put device).bump
  simp only [Registry.put, Registry.bump, places]

namespace DeviceEdit

variable {registry : Registry} {first second : DeviceEdit}

theorem perform_outcome (owned : registry.OwnsIds) (apart : first.id ≠ second.id) :
    (second.perform (first.perform registry).2).1 = (second.perform registry).1 := by
  simp only [perform_eq, verdict_accept owned apart]

theorem perform_comm (owned : registry.OwnsIds) (apart : first.id ≠ second.id) :
    (second.perform (first.perform registry).2).2 =
      (first.perform (second.perform registry).2).2 := by
  simp only [perform_eq, verdict_accept owned apart, verdict_accept owned apart.symm]
  apply Registry.accept_comm
  intro one other made done
  rw [id_of_verdict owned made, id_of_verdict owned done]
  exact apart

/-- The edit comes to the same among all edits of a registry. -/
theorem perform_eq_after (owned : registry.OwnsIds) (edit : DeviceEdit) :
    (edit.perform registry).2 = edit.operation.after registry := by
  have same : edit.operation.run registry = (edit.run registry).map (·.2) := by
    cases edit with
    | upsert device =>
      show (registry.upsert device).mapError Error.configuration =
        (((registry.upsert device).mapError Error.configuration).map (device, ·)).map (·.2)
      cases registry.upsert device <;> rfl
    | setEnabled id enabled => rfl
    | assign id deviceType location => rfl
  unfold perform
  cases done : edit.run registry with
  | ok made =>
    rw [done] at same
    exact (Registry.Operation.after_of_ok owned same).symm
  | error error =>
    rw [done] at same
    exact (Registry.Operation.after_of_error owned same).symm

end DeviceEdit

/-- A registry that is being edited, with the outcomes of the edits of each device so far. -/
structure Edited where
  registry : Registry
  outcomes : DeviceId → List (Except Error Device) := fun _ => []

namespace Edited

/-- One more edit is made. -/
def note (edited : Edited) (edit : DeviceEdit) : Edited where
  registry := (edit.perform edited.registry).2
  outcomes id :=
    if edit.id = id then edited.outcomes id ++ [(edit.perform edited.registry).1]
    else edited.outcomes id

/-- Edits are made one after the other. -/
def run (registry : Registry) (edits : List DeviceEdit) : Edited := edits.foldl note { registry }

theorem sound_note {edited : Edited} (sound : edited.registry.Sound) (edit : DeviceEdit) :
    (edited.note edit).registry.Sound := by
  show (edit.perform edited.registry).2.Sound
  rw [DeviceEdit.perform_eq_after sound.owned]
  exact (sound.after _).1

theorem note_comm {edited : Edited} {first second : DeviceEdit}
    (owned : edited.registry.OwnsIds) (apart : first.id ≠ second.id) :
    (edited.note first).note second = (edited.note second).note first := by
  have outcomes (id : DeviceId) : ((edited.note first).note second).outcomes id =
      ((edited.note second).note first).outcomes id := by
    simp only [note, DeviceEdit.perform_outcome owned apart,
      DeviceEdit.perform_outcome owned apart.symm]
    by_cases here : first.id = id
    · subst here
      simp [apart.symm]
    · simp [here]
  show (⟨_, _⟩ : Edited) = ⟨_, _⟩
  rw [Edited.mk.injEq]
  exact ⟨DeviceEdit.perform_comm owned apart, funext outcomes⟩

theorem commutes : Commutes (fun edited => edited.registry.Sound) DeviceEdit.id note where
  kept _ edit sound := sound_note sound edit
  swap _ _ _ sound apart := note_comm sound.owned apart

end Edited

namespace Registry

/-- Two edits of different devices have the same outcomes and give the same registry in either
order. Edits of any devices may change their order, if those of each device keep theirs: every edit
has the outcome it had, and the registry is the same at the end, with its version, so that the same
changes are committed and the same grammar is generated. -/
theorem edits_commute {registry : Registry} (reached : registry.Reachable) :
    (∀ first second : DeviceEdit, first.id ≠ second.id →
      (second.perform (first.perform registry).2).2 =
        (first.perform (second.perform registry).2).2 ∧
      (second.perform (first.perform registry).2).1 = (second.perform registry).1 ∧
      (first.perform (second.perform registry).2).1 = (first.perform registry).1) ∧
    ∀ edits others : List DeviceEdit,
      (∀ id, edits.filter (·.id = id) = others.filter (·.id = id)) →
      (Edited.run registry edits).registry = (Edited.run registry others).registry ∧
      (∀ id, (Edited.run registry edits).outcomes id = (Edited.run registry others).outcomes id) ∧
      Changeset.between registry (Edited.run registry edits).registry =
        .between registry (Edited.run registry others).registry ∧
      ∀ options time, (Edited.run registry edits).registry.generate options time =
        (Edited.run registry others).registry.generate options time := by
  have sound := reached.sound
  constructor
  · intro first second apart
    exact ⟨DeviceEdit.perform_comm sound.owned apart, DeviceEdit.perform_outcome sound.owned apart,
      DeviceEdit.perform_outcome sound.owned apart.symm⟩
  · intro edits others same
    have runs : Edited.run registry edits = Edited.run registry others :=
      Edited.commutes.foldl_eq same sound
    rw [runs]
    exact ⟨rfl, fun _ => rfl, rfl, fun _ _ => rfl⟩

section Fountain

def fountain : Device where
  id := ⟨"garden.fountain", by decide +kernel⟩

/-- The hose is disabled and assigned where it is, the fountain is enabled too early and then added. -/
def watering : List DeviceEdit :=
  [.setEnabled hose.id false, .setEnabled fountain.id true, .assign hose.id sprinkler garden,
    .upsert fountain]

/-- The edits of the fountain come before those of the hose. -/
def fountainFirst : List DeviceEdit :=
  [.setEnabled fountain.id true, .upsert fountain, .setEnabled hose.id false,
    .assign hose.id sprinkler garden]

theorem edits_commute_fountain :
    ∃ registry, Registry.restore 3 [(sprinkler, [.on, .off, .on])] [garden] [hose] = .ok registry ∧
      (Edited.run registry watering).registry = (Edited.run registry fountainFirst).registry ∧
      (Edited.run registry fountainFirst).registry.version = 5 ∧
      ((Edited.run registry watering).outcomes fountain.id).map (·.isOk) = [false, true] := by
  have parts : (Registry.restore 3 [(sprinkler, [.on, .off, .on])] [garden] [hose]).toOption.map
      (fun registry => ((Edited.run registry fountainFirst).registry.version,
        ((Edited.run registry fountainFirst).outcomes fountain.id).map (·.isOk))) =
        some (5, [false, true]) := by decide +kernel
  obtain ⟨registry, restored, parts⟩ := exists_of_toOption_map parts
  obtain ⟨version, outcomes⟩ := Prod.mk.inj parts
  have reached : registry.Reachable := ⟨registry, [], .restored restored, rfl⟩
  have apart : hose.id ≠ fountain.id := by decide +kernel
  have order : ∀ id, watering.filter (·.id = id) = fountainFirst.filter (·.id = id) := by
    intro id
    unfold watering fountainFirst
    by_cases here : hose.id = id
    · subst here
      simp [DeviceEdit.id, apart.symm]
    · by_cases there : fountain.id = id <;> simp [DeviceEdit.id, here, there]
  obtain ⟨same, alike, _⟩ := (edits_commute reached).2 watering fountainFirst order
  exact ⟨registry, restored, same, version, alike fountain.id ▸ outcomes⟩

end Fountain

end Registry

end HomeVoice
