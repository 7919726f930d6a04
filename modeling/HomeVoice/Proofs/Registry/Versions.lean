import HomeVoice.Proofs.Registry.Runs
import HomeVoice.Store.Memory

/-!
# The version tells the content

An edit changes nothing at all, or it changes the content and raises the version by one. So along a
run of edits a version stands for one registry, and who sees the version unchanged has seen that
nothing was changed.
-/

namespace HomeVoice

namespace Registry

/-- Devices, types and locations are the same ones. -/
structure SameContent (first second : Registry) : Prop where
  devices : first.devices = second.devices
  deviceTypes : first.deviceTypes = second.deviceTypes
  customTypes : first.customTypes = second.customTypes
  locations : first.locations = second.locations

/-- Nothing at all is changed, or the content is and the version is raised by one. -/
def MovesTo (registry next : Registry) : Prop :=
  next = registry ∨ next.version = registry.version + 1 ∧ ¬ next.SameContent registry

section Moves

variable {registry next : Registry} {device changed : Device}

/-- A device that is put in place of one that differs changes the devices. -/
private theorem movesTo_put {known : Option Device} (found : registry.get? device.id = known)
    (differs : known ≠ some device) : registry.MovesTo (registry.put device).bump := by
  refine .inr ⟨rfl, fun same => ?_⟩
  have here : (registry.put device).get? device.id = some device := by
    rw [get?_put, if_pos rfl]
  have there : (registry.put device).get? device.id = registry.get? device.id :=
    congrArg (·.get? device.id) same.devices
  exact differs (found.symm.trans (there.symm.trans here))

/-- An edit of a device looks whether there is something to change. -/
private theorem movesTo_change {same : Prop} [Decidable same]
    (found : registry.get? changed.id = some device) (told : device = changed → same) :
    registry.MovesTo (if same then registry else (registry.put changed).bump) := by
  by_cases still : same
  · exact .inl (if_pos still)
  · rw [if_neg still]
    exact movesTo_put found fun equal => still (told (Option.some.inj equal))

theorem movesTo_upsert (upserted : registry.upsert device = .ok next) : registry.MovesTo next := by
  unfold upsert at upserted
  obtain ⟨_, _, upserted⟩ := bind_eq_ok.mp upserted
  split at upserted
  · cases upserted
    exact .inl rfl
  next differs =>
    cases upserted
    refine movesTo_put rfl fun same => differs ?_
    rw [same]
    exact Device.beq_iff.mpr rfl

theorem movesTo_setEnabled (owned : registry.OwnsIds) {id : DeviceId} {enabled : Bool}
    (set : registry.setEnabled id enabled = .ok (changed, next)) : registry.MovesTo next := by
  unfold setEnabled at set
  split at set
  · cases set
  next device found =>
    cases set
    have own : device.id = id := owned id device found
    exact movesTo_change (own ▸ found) fun equal => congrArg Device.enabled equal

theorem movesTo_assign (owned : registry.OwnsIds) {id : DeviceId} {deviceType : DeviceType}
    {location : Location}
    (assigned : registry.assign id deviceType location = .ok (changed, next)) :
    registry.MovesTo next := by
  unfold assign at assigned
  dsimp only at assigned
  rw [require_eq_ok, require_eq_ok] at assigned
  obtain ⟨_, _, assigned⟩ := assigned
  split at assigned
  · cases assigned
  next device found =>
    cases assigned
    have own : device.id = id := owned id device found
    exact movesTo_change (own ▸ found) fun equal =>
      ⟨congrArg Device.deviceType equal, congrArg Device.location equal⟩

theorem movesTo_addType {deviceType : DeviceType} {actions : List Action}
    (added : registry.addType deviceType actions = .ok next) : registry.MovesTo next := by
  unfold addType at added
  obtain ⟨_, declared, added⟩ := bind_eq_ok.mp added
  cases added
  obtain ⟨new, _, rfl⟩ := insertType_eq_ok_iff.mp declared
  refine .inr ⟨rfl, fun same => ?_⟩
  have known : registry.knowsType deviceType = true := by
    rw [← knowsType_congr same.deviceTypes]
    exact (knowsType_declare registry).mpr (.inl rfl)
  rw [new] at known
  cases known

theorem movesTo_addLocation (registry : Registry) (location : Location) :
    registry.MovesTo (registry.addLocation location).2 := by
  unfold addLocation
  by_cases known : registry.knowsLocation location = true
  · exact .inl (by rw [if_pos known])
  · rw [if_neg known]
    refine .inr ⟨rfl, fun same => known (SortedMap.contains_iff.mpr ⟨(), ?_⟩)⟩
    rw [← same.locations]
    exact SortedMap.get?_insert_self registry.locations location ()

end Moves

namespace Operation

variable {registry next : Registry}

theorem movesTo_of_run {operation : Operation} (owned : registry.OwnsIds)
    (done : operation.run registry = .ok next) : registry.MovesTo next := by
  cases operation with
  | upsert device => exact movesTo_upsert (run_upsert_eq_ok.mp done)
  | setEnabled id enabled =>
    obtain ⟨_, set⟩ := run_setEnabled_eq_ok.mp done
    exact movesTo_setEnabled owned set
  | assign id deviceType location =>
    obtain ⟨_, assigned⟩ := run_assign_eq_ok.mp done
    exact movesTo_assign owned assigned
  | addType deviceType actions => exact movesTo_addType (run_addType_eq_ok.mp done)
  | addLocation location =>
    cases done
    exact movesTo_addLocation registry location

/-- The same, of an edit in place, which may also fail. -/
theorem after_cases (sound : registry.Sound) (operation : Operation) :
    operation.after registry = registry ∨
      (operation.after registry).version = registry.version + 1 := by
  cases done : operation.run registry with
  | error error => exact .inl (after_of_error sound.owned done)
  | ok next =>
    rw [after_of_ok sound.owned done]
    exact (movesTo_of_run sound.owned done).imp id And.left

end Operation

/-- Before each edit of a run the version can still be raised. -/
def Room (origin : Registry) (operations : List Operation) : Prop :=
  ∀ earlier operation, earlier ++ [operation] <+: operations →
    (origin.afterAll earlier).version < 0xFFFFFFFFFFFFFFFF

section Room

variable {origin : Registry}

theorem toNat_version_bump (room : origin.version < 0xFFFFFFFFFFFFFFFF) :
    (origin.version + 1).toNat = origin.version.toNat + 1 := by
  have below : origin.version.toNat < 0xFFFFFFFFFFFFFFFF := UInt64.lt_iff_toNat_lt.mp room
  have one : (1 : UInt64).toNat = 1 := rfl
  rw [UInt64.toNat_add, one]
  omega

theorem Room.of_prefix {earlier operations : List Operation} (room : origin.Room operations)
    (early : earlier <+: operations) : origin.Room earlier :=
  fun first operation within => room first operation (within.trans early)

theorem Room.later {earlier later : List Operation} (room : origin.Room (earlier ++ later)) :
    (origin.afterAll earlier).Room later := by
  intro first operation within
  rw [← afterAll_append]
  refine room (earlier ++ first) operation ?_
  rw [List.append_assoc]
  exact (List.prefix_append_right_inj earlier).mpr within

/-- A run comes back to where it began only if it changed nothing. -/
theorem Sound.grows (sound : origin.Sound) {operations : List Operation}
    (room : origin.Room operations) :
    origin.afterAll operations = origin ∨
      origin.version.toNat < (origin.afterAll operations).version.toNat := by
  induction operations generalizing origin with
  | nil => exact .inl rfl
  | cons operation rest ih =>
    have first : origin.version < 0xFFFFFFFFFFFFFFFF :=
      room [] operation (List.prefix_append [operation] rest)
    have others := ih (sound.after operation).1 (@Room.later origin [operation] rest room)
    have whole : origin.afterAll (operation :: rest) = (operation.after origin).afterAll rest := rfl
    rw [whole]
    rcases operation.after_cases sound with same | raised
    · rw [same] at others ⊢
      exact others
    · have higher : (operation.after origin).version.toNat = origin.version.toNat + 1 := by
        rw [raised, toNat_version_bump first]
      rcases others with still | grown
      · rw [still, higher]
        exact .inr (Nat.lt_succ_self _)
      · rw [higher] at grown
        exact .inr (Nat.lt_of_succ_lt grown)

/-- Of two registries of a run, those with one version are one registry. -/
theorem Sound.eq_of_version (sound : origin.Sound) {operations first second : List Operation}
    (room : origin.Room operations) (one : first <+: operations) (other : second <+: operations)
    (same : (origin.afterAll first).version = (origin.afterAll second).version) :
    origin.afterAll first = origin.afterAll second := by
  have ordered {earlier all : List Operation} (early : earlier <+: all)
      (within : all <+: operations)
      (same : (origin.afterAll earlier).version = (origin.afterAll all).version) :
      origin.afterAll earlier = origin.afterAll all := by
    obtain ⟨later, rfl⟩ := early
    rw [afterAll_append] at same ⊢
    rcases (sound.afterAll earlier).1.grows (room.of_prefix within).later with still | grown
    · exact still.symm
    · rw [same] at grown
      exact absurd grown (Nat.lt_irrefl _)
  rcases List.prefix_or_prefix_of_prefix one other with before | behind
  · exact ordered before other same
  · exact (ordered behind one same.symm).symm

theorem Sound.toNat_version_le (sound : origin.Sound) (operations : List Operation) :
    (origin.afterAll operations).version.toNat ≤ origin.version.toNat + operations.length := by
  induction operations generalizing origin with
  | nil => exact Nat.le_refl _
  | cons operation rest ih =>
    have others := ih (sound.after operation).1
    have first : (operation.after origin).version.toNat ≤ origin.version.toNat + 1 := by
      rcases operation.after_cases sound with same | raised
      · rw [same]
        exact Nat.le_succ _
      · rw [raised, UInt64.toNat_add]
        exact Nat.mod_le _ _
    refine others.trans ?_
    rw [List.length_cons]
    omega

/-- A run has room if it has no more edits than versions are left. -/
theorem Sound.room (sound : origin.Sound) {operations : List Operation}
    (few : origin.version.toNat + operations.length ≤ 0xFFFFFFFFFFFFFFFF) :
    origin.Room operations := by
  intro earlier operation within
  have shorter := within.length_le
  have bound := sound.toNat_version_le earlier
  rw [List.length_append, List.length_singleton] at shorter
  rw [UInt64.lt_iff_toNat_lt]
  show _ < 0xFFFFFFFFFFFFFFFF
  omega

end Room

section Between

variable {registry : Registry}

/-- A registry has nothing beyond itself. -/
theorem Sound.between_self (sound : registry.Sound) :
    (Changeset.between registry registry).isEmpty = true :=
  (Changeset.isEmpty_between_iff (.refl registry) sound).mpr (.refl registry)

/-- An edit of the hub that leaves the version as it is leaves everything as it is. -/
theorem Sound.eq_of_run {edit : Hub.RegistryEdit} {next : Registry} {answer : edit.Answer}
    (sound : registry.Sound) (small : edit.size < 0x10000000000000000)
    (done : edit.run registry = .ok (answer, next)) (same : next.version = registry.version) :
    next = registry := by
  obtain ⟨count, few, changes⟩ :=
    edit.changes_of_run sound registry.rangesIn_true edit.rangesIn_true done
  have raised : UInt64.ofNat count = 0 := by
    have version := changes.version
    rw [same] at version
    exact UInt64.left_eq_add.mp version
  have none : count = 0 := by
    have wrapped := congrArg UInt64.toNat raised
    rw [UInt64.toNat_ofNat'] at wrapped
    have whole : count % 0x10000000000000000 = 0 := wrapped
    omega
  subst none
  cases changes
  rfl

theorem applyEdit_of_version {σ α : Type} [Storage σ] {store left : σ} {edit : Hub.Edit α}
    {answer : α} {published : Registry}
    (applied : Hub.applyEdit store registry edit = .ok (answer, published, left)) :
    ∃ next, edit registry = .ok (answer, next) ∧
      (next.version = registry.version ∧ published = registry ∧ left = store ∨
        next.version ≠ registry.version ∧ published = next) := by
  unfold Hub.applyEdit at applied
  obtain ⟨⟨given, next⟩, done, applied⟩ := bind_eq_ok.mp applied
  dsimp only at applied
  split at applied
  next same =>
    cases applied
    exact ⟨next, done, .inl ⟨same, rfl, rfl⟩⟩
  next changed =>
    obtain ⟨_, _, applied⟩ := bind_eq_ok.mp applied
    cases applied
    exact ⟨_, done, .inr ⟨changed, rfl⟩⟩

end Between

/-- What an edit in place may leave: the registry as it was, or other content with the version
raised by one. It fails only with the registry as it was. -/
def Operation.Accounts (registry : Registry) (operation : Operation) : Prop :=
  match operation.perform registry with
  | .error _ left => left = registry
  | .ok _ next =>
    next.SameContent registry ∧ next = registry ∨
      ¬ next.SameContent registry ∧ next.version.toNat = registry.version.toNat + 1

theorem Sound.accounts {registry : Registry} (sound : registry.Sound)
    (room : registry.version < 0xFFFFFFFFFFFFFFFF) (operation : Operation) :
    operation.Accounts registry := by
  unfold Operation.Accounts
  rw [operation.perform_eq sound.owned]
  cases done : operation.run registry with
  | error error => rfl
  | ok next =>
    rcases Operation.movesTo_of_run sound.owned done with same | ⟨raised, differs⟩
    · subst same
      exact .inl ⟨⟨rfl, rfl, rfl, rfl⟩, rfl⟩
    · exact .inr ⟨differs, by rw [raised, toNat_version_bump room]⟩

/-- Along a run every edit accounts for its version, and of all registries of the run those with one
version are one registry. A change made through a store with the version unchanged had nothing to
commit. -/
theorem version_identifies_content {origin : Registry} (begun : Origin origin)
    (operations : List Operation) (room : origin.Room operations) :
    (∀ earlier operation, earlier ++ [operation] <+: operations →
      operation.Accounts (origin.afterAll earlier)) ∧
    (∀ first second, first <+: operations → second <+: operations →
      (origin.afterAll first).version = (origin.afterAll second).version →
      origin.afterAll first = origin.afterAll second) ∧
    ∀ (σ : Type) [Storage σ] (store left : σ) (edit : Hub.RegistryEdit) (answer : edit.Answer)
      (published : Registry), edit.size < 0x10000000000000000 →
      Hub.applyEdit store (origin.afterAll operations) edit.run = .ok (answer, published, left) →
      edit.run (origin.afterAll operations) = .ok (answer, published) ∧
        (published.version = (origin.afterAll operations).version → left = store ∧
          published = origin.afterAll operations ∧
          (Changeset.between (origin.afterAll operations) published).isEmpty = true) := by
  have ⟨sound, _⟩ := begun.sound.afterAll operations
  refine ⟨?_, ?_, ?_⟩
  · intro earlier operation within
    exact (begun.sound.afterAll earlier).1.accounts (room earlier operation within) operation
  · intro first second one other same
    exact begun.sound.eq_of_version room one other same
  · intro σ _ store left edit answer published small applied
    obtain ⟨next, done, ⟨same, rfl, rfl⟩ | ⟨changed, rfl⟩⟩ := applyEdit_of_version applied
    · have still := sound.eq_of_run small done same
      exact ⟨still ▸ done, fun _ => ⟨rfl, rfl, sound.between_self⟩⟩
    · exact ⟨done, fun same => absurd same changed⟩

/-- Two refused edits, one that changes a device and one that changes nothing: the last registry is
the one before the last edit, and the garden may be added again through a store that refuses every
commit. -/
theorem version_identifies_content_gardening :
    let store : Store.Memory := { refusals := { commit := true } }
    ∃ origin, Registry.restore 3 [(sprinkler, [.on, .off, .on])] [garden] [hose] = .ok origin ∧
      origin.Room gardening ∧ (origin.afterAll gardening).version = 4 ∧
      (Operation.addLocation garden).Accounts (origin.afterAll (gardening.take 3)) ∧
      origin.afterAll (gardening.take 3) = origin.afterAll gardening ∧
      Hub.applyEdit store (origin.afterAll gardening) (Hub.RegistryEdit.addLocation garden).run =
        .ok (false, origin.afterAll gardening, store) ∧
      (Changeset.between (origin.afterAll gardening)
        (origin.afterAll gardening)).isEmpty = true := by
  intro store
  have parts :
      (Registry.restore 3 [(sprinkler, [.on, .off, .on])] [garden] [hose]).toOption.map
        (fun origin => (origin.version, (origin.afterAll gardening).version,
          (origin.afterAll (gardening.take 3)).version,
          (origin.afterAll gardening).knowsLocation garden)) = some (3, 4, 4, true) := by
    decide +kernel
  obtain ⟨origin, restored, parts⟩ := exists_of_toOption_map parts
  obtain ⟨first, parts⟩ := Prod.mk.inj parts
  obtain ⟨last, parts⟩ := Prod.mk.inj parts
  obtain ⟨third, known⟩ := Prod.mk.inj parts
  have begun : Origin origin := .restored restored
  have room : origin.Room gardening := begun.sound.room (by rw [first]; decide)
  have again : Hub.applyEdit store (origin.afterAll gardening)
      (Hub.RegistryEdit.addLocation garden).run =
        .ok (false, origin.afterAll gardening, store) := by
    have added : (Hub.RegistryEdit.addLocation garden).run (origin.afterAll gardening) =
        .ok (false, origin.afterAll gardening) := congrArg Except.ok (if_pos known)
    unfold Hub.applyEdit
    rw [added, ok_bind]
    exact if_pos rfl
  have ⟨accounts, same, skipped⟩ := version_identifies_content begun gardening room
  have ⟨_, nothing⟩ := skipped Store.Memory store store (.addLocation garden) false
    (origin.afterAll gardening) (by decide) again
  exact ⟨origin, restored, room, last, accounts _ _ (List.prefix_refl _),
    same _ _ (List.take_prefix 3 gardening) (List.prefix_refl _) (third.trans last.symm), again,
    (nothing rfl).2.2⟩

end Registry

end HomeVoice
