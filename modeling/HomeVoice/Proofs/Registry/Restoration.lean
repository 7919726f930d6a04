import HomeVoice.Proofs.Registry.Sound

/-!
# A registry is rebuilt from its parts

Restoring takes the declared types, the locations and the devices apart from each other and checks
each of them again. The parts of a sound registry pass all checks, and what comes out is the
registry that they were taken from. Of other parts, too, nothing comes out that is not sound.
-/

namespace HomeVoice.Registry

variable {registry : Registry}

/-- Types that are new to a registry are declared one after the other. -/
private theorem foldlM_insertType_of_new {entries : List (DeviceType × List Action)}
    (apart : entries.Pairwise fun first second => first.1 < second.1)
    (given : ∀ entry ∈ entries, entry.2 ≠ [] ∧ entry.2.Nodup)
    (free : ∀ entry ∈ entries, registry.knowsType entry.1 = false) :
    entries.foldlM (fun registry entry => registry.insertType entry.1 entry.2) registry =
      .ok (entries.foldl (fun registry entry => registry.declare entry.1 entry.2) registry) := by
  induction entries generalizing registry with
  | nil => rfl
  | cons entry rest ih =>
    have ⟨below, restApart⟩ := List.pairwise_cons.mp apart
    have ⟨⟨nonempty, unrepeated⟩, restGiven⟩ := List.forall_mem_cons.mp given
    have ⟨unknown, restFree⟩ := List.forall_mem_cons.mp free
    have declared : registry.insertType entry.1 entry.2 =
        .ok (registry.declare entry.1 entry.2) := by
      rw [insertType_eq_ok_iff, Action.distinct_of_nodup unrepeated]
      exact ⟨unknown, nonempty, rfl⟩
    have stillFree : ∀ other ∈ rest,
        (registry.declare entry.1 entry.2).knowsType other.1 = false := by
      intro other member
      rw [Bool.eq_false_iff, Ne, knowsType_declare, restFree other member]
      rintro (same | known)
      · exact KeyOrder.irrefl other.1 (same ▸ below other member)
      · cases known
    rw [List.foldlM_cons, declared]
    exact ih restApart restGiven stillFree

/-- Devices that fit into a registry are put in one after the other. -/
private theorem foldlM_put {devices : List Device}
    (fits : ∀ device ∈ devices, registry.checkMembership device = .ok ()) :
    devices.foldlM (fun registry device => do
        registry.checkMembership device
        return registry.put device) registry =
      .ok { registry with
        devices := devices.foldl (fun devices device => devices.insert device.id device)
          registry.devices } := by
  induction devices generalizing registry with
  | nil => rfl
  | cons device rest ih =>
    have ⟨first, others⟩ := List.forall_mem_cons.mp fits
    rw [List.foldlM_cons, first]
    exact @ih (registry.put device) others

/-- Devices under their own identifiers are found again under them. -/
theorem foldl_insert_values (owned : registry.OwnsIds) :
    registry.devices.values.foldl (fun devices device => devices.insert device.id device) .empty =
      registry.devices := by
  have ids : registry.devices.values.map (fun device => (device.id, device)) =
      registry.devices.entries := by
    rw [SortedMap.values, List.map_map]
    refine (List.map_congr_left ?_).trans (List.map_id _)
    intro entry member
    exact Prod.ext (owned entry.1 entry.2 (SortedMap.mem_entries_iff.mp member)) rfl
  have built := SortedMap.ofList_entries registry.devices
  rw [SortedMap.ofList, ← ids, List.foldl_map] at built
  exact built

/-- The types of a sound registry are the built-in ones and the declared ones. -/
theorem Sound.deviceTypes_eq (sound : registry.Sound) :
    registry.declaredTypes.entries.foldl (fun types entry => types.insert entry.1 entry.2)
      builtinTypes = registry.deviceTypes := by
  refine SortedMap.foldl_insert_eq Prod.fst Prod.snd
    (fun entry member => (mem_declaredTypes.mp member).1) ?_
  intro deviceType absent
  cases builtin : builtinTypes.get? deviceType with
  | some actions => exact (sound.builtin deviceType actions builtin).symm
  | none =>
    cases found : registry.deviceTypes.get? deviceType with
    | none => rfl
    | some actions =>
      have declared := (sound.declared deviceType).mpr ⟨knowsType_iff.mpr ⟨_, found⟩, builtin⟩
      exact absurd rfl (absent (deviceType, actions) (mem_declaredTypes.mpr ⟨found, declared⟩))

/-- Every declared type of a sound registry has its vocabulary. -/
theorem Sound.customTypes_eq (sound : registry.Sound) :
    registry.declaredTypes.entries.foldl (fun names entry => names.add entry.1) .empty =
      registry.customTypes := by
  apply SortedMap.ext_contains
  intro deviceType
  refine (SortedMap.contains_foldl_insert Prod.fst fun _ => ()).trans ?_
  constructor
  · rintro (⟨entry, member, rfl⟩ | nowhere)
    · exact (mem_declaredTypes.mp member).2
    · cases nowhere
  · intro declared
    obtain ⟨actions, found⟩ := knowsType_iff.mp ((sound.declared deviceType).mp declared).1
    exact .inl ⟨(deviceType, actions), mem_declaredTypes.mpr ⟨found, declared⟩, rfl⟩

/-- Declaring the declared types of a sound registry gives all its types. -/
theorem Sound.foldlM_insertType (sound : registry.Sound) :
    registry.declaredTypes.entries.foldlM
        (fun registry entry => registry.insertType entry.1 entry.2) empty =
      .ok { empty with
        deviceTypes := registry.deviceTypes
        customTypes := registry.customTypes } := by
  have given : ∀ entry ∈ registry.declaredTypes.entries, entry.2 ≠ [] ∧ entry.2.Nodup :=
    fun entry member => sound.vocabularies _ _ (mem_declaredTypes.mp member).1
  have free : ∀ entry ∈ registry.declaredTypes.entries, empty.knowsType entry.1 = false := by
    intro entry member
    have new := ((sound.declared entry.1).mp (mem_declaredTypes.mp member).2).2
    show (builtinTypes.get? entry.1).isSome = false
    rw [new]
    rfl
  rw [foldlM_insertType_of_new registry.declaredTypes.ascending given free, foldl_declare,
    ← sound.deviceTypes_eq, ← sound.customTypes_eq]
  rfl

/-- The parts of a sound registry make this registry again. -/
theorem Sound.restore (sound : registry.Sound) :
    Registry.restore registry.version registry.declaredTypes.entries registry.locations.keys
      registry.devices.values = .ok registry := by
  have locations : registry.locations.keys.foldl SortedSet.add empty.locations =
      registry.locations := by
    rw [SortedMap.keys, List.foldl_map]
    exact SortedMap.ofList_entries registry.locations
  let withLocations : Registry := { registry with version := 0, devices := .empty }
  have fits : ∀ device ∈ registry.devices.values,
      withLocations.checkMembership device = .ok () := by
    intro device member
    obtain ⟨id, found⟩ := SortedMap.mem_values_iff.mp member
    exact sound.placed id device found
  unfold Registry.restore
  refine bind_eq_ok.mpr ⟨_, sound.foldlM_insertType, ?_⟩
  dsimp only
  rw [locations]
  refine bind_eq_ok.mpr ⟨_, foldlM_put fits, ?_⟩
  show Except.ok { withLocations with
    devices := registry.devices.values.foldl _ .empty, version := registry.version } = _
  rw [foldl_insert_values sound.owned]

/-! ## What restoring makes is sound -/

theorem sound_bump_iff : registry.bump.Sound ↔ registry.Sound := by
  constructor
  · intro sound
    exact ⟨sound.owned, sound.placed, sound.builtin, sound.declared, sound.vocabularies⟩
  · intro sound
    exact ⟨sound.owned, sound.placed, sound.builtin, sound.declared, sound.vocabularies⟩

theorem Sound.insertType {next : Registry} {deviceType : DeviceType} {actions : List Action}
    (sound : registry.Sound) (declared : registry.insertType deviceType actions = .ok next) :
    next.Sound := by
  have change : Change (fun _ => True) registry next.bump := .type declared
  exact sound_bump_iff.mp (change.sound sound)

theorem Sound.put {device : Device} (sound : registry.Sound)
    (fits : registry.checkMembership device = .ok ()) : (registry.put device).Sound := by
  have change : Change (fun _ => True) registry (registry.put device).bump :=
    .device fits fun _ _ => trivial
  exact sound_bump_iff.mp (change.sound sound)

theorem extends_addLocations (registry : Registry) (locations : List Location) :
    { registry with locations := locations.foldl SortedSet.add registry.locations }.Extends
      registry where
  types _ _ found := found
  declared := (Extends.refl registry).declared
  devices _ known := known
  locations _ known :=
    (SortedMap.contains_foldl_insert (fun location => location) fun _ => ()).mpr (.inr known)

/-- More locations leave nothing without its place. -/
theorem Sound.addLocations (sound : registry.Sound) (locations : List Location) :
    { registry with locations := locations.foldl SortedSet.add registry.locations }.Sound where
  owned := sound.owned
  builtin := sound.builtin
  declared := sound.declared
  vocabularies := sound.vocabularies
  placed id device found :=
    (extends_addLocations registry locations).covers.checkMembership
      (sound.placed id device found)

theorem version_of_restore {version : UInt64} {types : List (DeviceType × List Action)}
    {locations : List Location} {devices : List Device}
    (restored : Registry.restore version types locations devices = .ok registry) :
    registry.version = version := by
  obtain ⟨_, _, restored⟩ := bind_eq_ok.mp restored
  obtain ⟨_, _, restored⟩ := bind_eq_ok.mp restored
  cases restored
  rfl

/-- Whatever parts a registry is restored from, it is sound. -/
theorem sound_of_restore {version : UInt64} {types : List (DeviceType × List Action)}
    {locations : List Location} {devices : List Device}
    (restored : Registry.restore version types locations devices = .ok registry) :
    registry.Sound := by
  unfold Registry.restore at restored
  obtain ⟨withTypes, declared, restored⟩ := bind_eq_ok.mp restored
  obtain ⟨withDevices, put, restored⟩ := bind_eq_ok.mp restored
  cases restored
  have typed : withTypes.Sound := by
    refine foldlM_invariant sound_empty ?_ declared
    intro before entry after _ sound step
    exact sound.insertType step
  have filled : withDevices.Sound := by
    refine foldlM_invariant (typed.addLocations locations) ?_ put
    intro before device after _ sound step
    obtain ⟨_, fits, step⟩ := bind_eq_ok.mp step
    cases step
    exact sound.put fits
  exact ⟨filled.owned, filled.placed, filled.builtin, filled.declared, filled.vocabularies⟩

end HomeVoice.Registry
