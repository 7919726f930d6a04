import HomeVoice.Proofs.Grammar.Commands

/-!
# When a grammar is generated, and what it is generated with

Of any registry that edits can make, generation says one of three things: that devices are in
conflict, that there is none to speak of, or a grammar. Which one depends only on the enabled devices
with a type and a location. Two of them under one pair are a conflict, none at all is emptiness, and
otherwise index, vocabularies and ranges of the artifact are those of exactly these devices.
-/

namespace HomeVoice

open Time (Timestamp)

namespace Artifact

theorem mem_locationsFor_iff {artifact : Artifact} {deviceType : DeviceType} {location : Location} :
    location ∈ artifact.locationsFor deviceType ↔
      ∃ id, artifact.pairIndex.get? ⟨deviceType, location⟩ = some id :=
  SortedMap.mem_locations_iff

/-- The locations for a type are listed in order, each once. -/
theorem pairwise_locationsFor (artifact : Artifact) (deviceType : DeviceType) :
    (artifact.locationsFor deviceType).Pairwise (· < ·) := by
  have keys : artifact.pairIndex.keys.Pairwise (· < ·) :=
    List.pairwise_map.mpr artifact.pairIndex.ascending
  refine List.pairwise_map.mpr ((keys.filter _).imp_of_mem ?_)
  intro first second here there below
  have one : first.deviceType = deviceType := of_decide_eq_true (List.mem_filter.mp here).2
  have other : second.deviceType = deviceType := of_decide_eq_true (List.mem_filter.mp there).2
  rcases below with apart | ⟨_, below⟩
  · rw [one, other] at apart
    exact absurd apart (KeyOrder.irrefl deviceType)
  · exact below

end Artifact

namespace Registry

/-- The device with this identifier is enabled and has the type and the location of the pair. -/
def Stands (registry : Registry) (id : DeviceId) (pair : Pair) : Prop :=
  ∃ device, registry.get? id = some device ∧ device.enabled = true ∧
    device.deviceType = some pair.deviceType ∧ device.location = some pair.location

instance (registry : Registry) (id : DeviceId) (pair : Pair) : Decidable (registry.Stands id pair) :=
  decidable_of_iff ((registry.get? id).any (fun device => device.enabled = true ∧
    device.deviceType = some pair.deviceType ∧ device.location = some pair.location) = true)
    (by simp [Stands, Option.any_eq_true])

/-- Two enabled devices share a type and a location. -/
def Clashes (registry : Registry) : Prop :=
  ∃ pair first second, first ≠ second ∧ registry.Stands first pair ∧ registry.Stands second pair

section Devices

variable {registry : Registry} {pair : Pair} {id : DeviceId} {device : Device}

theorem stands_iff (owned : registry.OwnsIds) :
    registry.Stands id pair ↔ ∃ device ∈ registry.devicesAt pair, device.id = id := by
  constructor
  · rintro ⟨device, found, enabled, deviceType, location⟩
    have standing : device ∈ registry.devicesAt pair :=
      mem_devicesAt_iff.mpr ⟨mem_enabledDevices_iff.mpr ⟨⟨id, found⟩, enabled⟩,
        Device.pair_eq_some_iff.mpr ⟨deviceType, location⟩⟩
    exact ⟨device, standing, owned id device found⟩
  · rintro ⟨device, standing, rfl⟩
    obtain ⟨listed, classified⟩ := mem_devicesAt_iff.mp standing
    obtain ⟨⟨key, found⟩, enabled⟩ := mem_enabledDevices_iff.mp listed
    obtain ⟨deviceType, location⟩ := Device.pair_eq_some_iff.mp classified
    exact ⟨device, owned key device found ▸ found, enabled, deviceType, location⟩

/-- Devices come in the order of their identifiers, and no identifier comes twice. -/
theorem pairwise_enabledDevices (owned : registry.OwnsIds) :
    registry.enabledDevices.Pairwise fun first second => first.id < second.id :=
  owned.pairwise_values.filter _

theorem pairwise_devicesAt (owned : registry.OwnsIds) (pair : Pair) :
    (registry.devicesAt pair).Pairwise fun first second => first.id < second.id :=
  (pairwise_enabledDevices owned).filter _

/-- More than one device is under a pair if two of them have different identifiers. -/
theorem one_lt_length_devicesAt_iff (owned : registry.OwnsIds) {pair : Pair} :
    1 < (registry.devicesAt pair).length ↔
      ∃ first second, first ≠ second ∧ registry.Stands first pair ∧ registry.Stands second pair := by
  simp only [stands_iff owned]
  constructor
  · intro several
    have ascending := pairwise_devicesAt owned pair
    match devices : registry.devicesAt pair with
    | [] | [_] => simp [devices] at several
    | first :: second :: rest =>
      rw [devices] at ascending
      have below : first.id < second.id :=
        (List.pairwise_cons.mp ascending).1 second List.mem_cons_self
      refine ⟨first.id, second.id, ?_, ⟨first, by simp, rfl⟩, ⟨second, by simp, rfl⟩⟩
      intro same
      exact KeyOrder.irrefl _ (same ▸ below)
  · rintro ⟨_, _, apart, ⟨first, here, rfl⟩, second, there, rfl⟩
    match devices : registry.devicesAt pair with
    | [] => simp [devices] at here
    | [only] =>
      rw [devices, List.mem_singleton] at here there
      exact absurd (congrArg Device.id (here.trans there.symm)) apart
    | _ :: _ :: rest => simp

theorem conflicts_eq_nil_iff_not_clashes (owned : registry.OwnsIds) :
    registry.validate.conflicts = [] ↔ ¬ registry.Clashes := by
  simp only [conflicts_eq_nil_iff, Clashes, not_exists, ← Nat.not_lt,
    one_lt_length_devicesAt_iff owned]

theorem addressed_isEmpty_iff (owned : registry.OwnsIds) :
    registry.addressed.isEmpty = true ↔ ∀ id pair, ¬ registry.Stands id pair := by
  simp only [SortedMap.isEmpty_iff, get?_addressed, List.getLast?_eq_none_iff, stands_iff owned]
  constructor
  · rintro none id pair ⟨device, standing, _⟩
    rw [none pair] at standing
    cases standing
  · intro none pair
    refine List.eq_nil_iff_forall_not_mem.mpr fun device standing => ?_
    exact none device.id pair ⟨device, standing, rfl⟩

/-- A type is in use if a device stands under it. -/
theorem mem_typesInUse_iff_stands (owned : registry.OwnsIds) {deviceType : DeviceType} :
    deviceType ∈ registry.typesInUse ↔
      ∃ id location, registry.Stands id ⟨deviceType, location⟩ := by
  simp only [mem_typesInUse_iff, get?_addressed, stands_iff owned]
  constructor
  · rintro ⟨location, device, last⟩
    exact ⟨device.id, location, device, List.mem_of_getLast? last, rfl⟩
  · rintro ⟨_, location, device, standing, _⟩
    exact ⟨location, _, List.getLast?_eq_some_getLast (List.ne_nil_of_mem standing)⟩

/-- Every type in use has a vocabulary, so the parts of the grammar can be put together. -/
theorem Sound.exists_grammarSections (sound : registry.Sound) :
    ∃ sections, registry.grammarSections = .ok sections := by
  refine exists_mapM_eq_ok fun deviceType used => ?_
  obtain ⟨id, location, device, found, _, typed, _⟩ := (mem_typesInUse_iff_stands sound.owned).mp used
  obtain ⟨actions, known⟩ := sound.consistent.typed id device deviceType found typed
  exact ⟨_, grammarSection_eq_ok_iff.mpr ⟨actions, known, rfl⟩⟩

/-- Generation goes one of three ways. -/
theorem Sound.generate_cases (sound : registry.Sound) (options : GrammarOptions)
    (time : Timestamp) :
    (registry.Clashes ∧
      registry.generate options time = .error (.conflict registry.validate.conflicts)) ∨
    (¬ registry.Clashes ∧ (∀ id pair, ¬ registry.Stands id pair) ∧
      registry.generate options time = .error (.configuration .emptyRegistry)) ∨
    (¬ registry.Clashes ∧ (∃ id pair, registry.Stands id pair) ∧
      ∃ artifact, registry.generate options time = .ok artifact) := by
  by_cases clear : registry.validate.conflicts = []
  · have apart := (conflicts_eq_nil_iff_not_clashes sound.owned).mp clear
    cases nothing : registry.addressed.isEmpty with
    | true =>
      refine .inr (.inl ⟨apart, (addressed_isEmpty_iff sound.owned).mp nothing, ?_⟩)
      rw [generate_eq_ite, if_pos clear, if_pos nothing]
    | false =>
      obtain ⟨sections, read⟩ := sound.exists_grammarSections
      have inhabited : ∃ id pair, registry.Stands id pair := by
        by_contra none
        have empty := (addressed_isEmpty_iff sound.owned).mpr fun id pair standing =>
          none ⟨id, pair, standing⟩
        rw [nothing] at empty
        cases empty
      exact .inr (.inr ⟨apart, inhabited, _, generate_eq clear nothing read options time⟩)
  · refine .inl ⟨not_not.mp fun apart => clear ?_, ?_⟩
    · exact (conflicts_eq_nil_iff_not_clashes sound.owned).mpr apart
    · rw [generate_eq_ite, if_neg clear]

end Devices

/-- Index, vocabularies and ranges of an artifact are those of the enabled devices with a type and a
location. -/
structure ChartedBy (registry : Registry) (options : GrammarOptions) (artifact : Artifact) :
    Prop where
  index : ∀ pair id, artifact.pairIndex.get? pair = some id ↔ registry.Stands id pair
  injective : ∀ first second id, artifact.pairIndex.get? first = some id →
    artifact.pairIndex.get? second = some id → first = second
  vocabularies : ∀ deviceType actions, artifact.vocabularies.get? deviceType = some actions ↔
    (∃ id location, registry.Stands id ⟨deviceType, location⟩) ∧
      registry.vocabulary deviceType = some actions
  spoken : ∀ id pair, registry.Stands id pair →
    ∃ actions, artifact.vocabularies.get? pair.deviceType = some actions
  ranges : ∀ id range, artifact.valueRanges.get? id = some range ↔
    (∃ pair, registry.Stands id pair) ∧
      ∃ device, registry.get? id = some device ∧ device.valueRange = some range
  version : artifact.sourceVersion = registry.version
  options : artifact.options = options
  locations : ∀ deviceType location, location ∈ artifact.locationsFor deviceType ↔
    ∃ id, registry.Stands id ⟨deviceType, location⟩
  listed : ∀ deviceType, (artifact.locationsFor deviceType).Pairwise (· < ·)

/-- A device stands under one pair at most. -/
theorem Stands.pair_eq {registry : Registry} {id : DeviceId} {first second : Pair}
    (one : registry.Stands id first) (other : registry.Stands id second) : first = second := by
  obtain ⟨device, found, _, deviceType, location⟩ := one
  obtain ⟨_, again, _, deviceType', location'⟩ := other
  cases found.symm.trans again
  cases first
  cases second
  cases deviceType.symm.trans deviceType'
  cases location.symm.trans location'
  rfl

section Generated

variable {registry : Registry} {options : GrammarOptions} {time : Timestamp} {artifact : Artifact}

theorem pairIndex_get?_iff_stands (owned : registry.OwnsIds)
    (made : registry.generate options time = .ok artifact) {pair : Pair} {id : DeviceId} :
    artifact.pairIndex.get? pair = some id ↔ registry.Stands id pair := by
  rw [stands_iff owned]
  constructor
  · intro indexed
    obtain ⟨device, alone, same⟩ := devicesAt_of_pairIndex made indexed
    exact ⟨device, by simp [alone], same⟩
  · rintro ⟨device, standing, rfl⟩
    exact pairIndex_get?_of_standing made standing

theorem vocabularies_get?_iff (owned : registry.OwnsIds)
    (made : registry.generate options time = .ok artifact) {deviceType : DeviceType}
    {actions : List Action} :
    artifact.vocabularies.get? deviceType = some actions ↔
      (∃ id location, registry.Stands id ⟨deviceType, location⟩) ∧
        registry.vocabulary deviceType = some actions := by
  constructor
  · intro found
    refine ⟨?_, vocabulary_of_vocabularies made found⟩
    obtain ⟨_, _, sections, read, rfl⟩ := generate_ok made
    obtain ⟨part, member, same⟩ := List.mem_map.mp (SortedMap.mem_of_get?_ofList found)
    cases same
    exact (mem_typesInUse_iff_stands owned).mp (section_of_mem read member).1
  · rintro ⟨⟨id, location, standing⟩, known⟩
    exact vocabularies_get?_of_indexed made ((pairIndex_get?_iff_stands owned made).mpr standing)
      known

theorem valueRanges_get?_iff (owned : registry.OwnsIds)
    (made : registry.generate options time = .ok artifact) {id : DeviceId} {range : ValueRange} :
    artifact.valueRanges.get? id = some range ↔
      (∃ pair, registry.Stands id pair) ∧
        ∃ device, registry.get? id = some device ∧ device.valueRange = some range := by
  constructor
  · intro found
    obtain ⟨_, _, _, _, rfl⟩ := generate_ok made
    obtain ⟨device, known, listed⟩ := List.mem_filterMap.mp (SortedMap.mem_of_get?_ofList found)
    obtain ⟨_, has, same⟩ := Option.map_eq_some_iff.mp listed
    cases same
    obtain ⟨pair, addressed⟩ := SortedMap.mem_values_iff.mp known
    refine ⟨⟨pair, ?_⟩, device, get?_id_of_addressed owned addressed, has⟩
    rw [get?_addressed] at addressed
    exact (stands_iff owned).mpr ⟨device, List.mem_of_getLast? addressed, rfl⟩
  · rintro ⟨⟨pair, standing⟩, device, found, has⟩
    obtain ⟨other, listed, rfl⟩ := (stands_iff owned).mp standing
    have alone := devicesAt_eq_singleton made listed
    rw [valueRanges_get?_of_devicesAt owned made alone]
    obtain ⟨⟨key, stored⟩, _⟩ := mem_enabledDevices_iff.mp (mem_devicesAt_iff.mp listed).1
    rw [owned key other stored, stored] at found
    cases found
    exact has

theorem chartedBy_of_generate (sound : registry.Sound)
    (made : registry.generate options time = .ok artifact) :
    registry.ChartedBy options artifact where
  index pair id := pairIndex_get?_iff_stands sound.owned made
  injective first second id one other :=
    ((pairIndex_get?_iff_stands sound.owned made).mp one).pair_eq
      ((pairIndex_get?_iff_stands sound.owned made).mp other)
  vocabularies deviceType actions := vocabularies_get?_iff sound.owned made
  spoken id pair standing := by
    have ⟨device, found, _, typed, _⟩ := standing
    obtain ⟨actions, known⟩ := sound.consistent.typed id device pair.deviceType found typed
    exact ⟨actions, (vocabularies_get?_iff sound.owned made).mpr
      ⟨⟨id, pair.location, standing⟩, known⟩⟩
  ranges id range := valueRanges_get?_iff sound.owned made
  version := generate_sourceVersion made
  options := generate_options made
  locations deviceType location := by
    simp only [Artifact.mem_locationsFor_iff, pairIndex_get?_iff_stands sound.owned made]
  listed := artifact.pairwise_locationsFor

/-- Generation fails for conflicts, with the list of the validation, exactly if two enabled devices
share a pair. It fails for emptiness exactly if no two do and no enabled device has a pair at all.
Otherwise there is an artifact, and it charts exactly the enabled devices with a pair. No type is
ever unknown. -/
theorem generate_iff (reached : registry.Reachable) (options : GrammarOptions) (time : Timestamp) :
    (∀ conflicts, registry.generate options time = .error (.conflict conflicts) ↔
      registry.Clashes ∧ conflicts = registry.validate.conflicts) ∧
    (registry.generate options time = .error (.configuration .emptyRegistry) ↔
      ¬ registry.Clashes ∧ ∀ id pair, ¬ registry.Stands id pair) ∧
    (¬ registry.Clashes → (∃ id pair, registry.Stands id pair) →
      ∃ artifact, registry.generate options time = .ok artifact ∧
        registry.ChartedBy options artifact) ∧
    ∀ deviceType, registry.generate options time ≠
      .error (.configuration (.unknownType deviceType)) := by
  have sound := reached.sound
  rcases sound.generate_cases options time with
    ⟨clash, made⟩ | ⟨apart, none, made⟩ | ⟨apart, ⟨id, pair, standing⟩, artifact, made⟩
  · simp only [made]
    refine ⟨fun conflicts => ?_, ?_, ?_, by simp⟩
    · simp [clash, eq_comm]
    · simp [clash]
    · exact fun apart => absurd clash apart
  · simp only [made]
    refine ⟨fun conflicts => ?_, ?_, ?_, by simp⟩
    · simp [apart]
    · simp [apart, none]
    · rintro _ ⟨id, pair, standing⟩
      exact absurd standing (none id pair)
  · simp only [made]
    refine ⟨fun conflicts => ?_, ?_, ?_, by simp⟩
    · simp [apart]
    · constructor
      · nofun
      · rintro ⟨_, none⟩
        exact absurd standing (none id pair)
    · exact fun _ _ => ⟨artifact, rfl, chartedBy_of_generate sound made⟩

end Generated

section Crowd

/-- Another television of the type that is in the room already is put there. -/
def crowding : List Operation := [.upsert (television "d" (by decide +kernel) tvRoom)]

theorem generate_iff_rooms :
    ∃ registry, rooms = .ok registry ∧
      (∃ artifact, registry.generate {} ⟨0, 0⟩ = .ok artifact ∧ registry.ChartedBy {} artifact) ∧
      (registry.afterAll crowding).generate {} ⟨0, 0⟩ =
        .error (.conflict (registry.afterAll crowding).validate.conflicts) ∧
      empty.generate {} ⟨0, 0⟩ = .error (.configuration .emptyRegistry) := by
  let first : DeviceId := ⟨"a", by decide +kernel⟩
  let second : DeviceId := ⟨"d", by decide +kernel⟩
  have parts : rooms.toOption.map (fun registry =>
      (registry.validate.conflicts, decide (registry.Stands first ⟨tvRoom, kidsRoom⟩),
        decide ((registry.afterAll crowding).Stands first ⟨tvRoom, kidsRoom⟩),
        decide ((registry.afterAll crowding).Stands second ⟨tvRoom, kidsRoom⟩))) =
          some ([], true, true, true) := by decide +kernel
  obtain ⟨registry, restored, parts⟩ := exists_of_toOption_map parts
  simp only [Prod.mk.injEq, decide_eq_true_eq] at parts
  obtain ⟨clear, alone, crowded, another⟩ := parts
  have begun : Origin registry := .restored restored
  have reached : registry.Reachable := ⟨registry, [], begun, rfl⟩
  have later : (registry.afterAll crowding).Reachable := ⟨registry, crowding, begun, rfl⟩
  have nothing : Reachable empty := ⟨empty, [], .new, rfl⟩
  have apart := (conflicts_eq_nil_iff_not_clashes begun.sound.owned).mp clear
  refine ⟨registry, restored, ?_, ?_, ?_⟩
  · exact (generate_iff reached {} ⟨0, 0⟩).2.2.1 apart ⟨_, _, alone⟩
  · refine ((generate_iff later {} ⟨0, 0⟩).1 _).mpr ⟨?_, rfl⟩
    exact ⟨_, first, second, by decide +kernel, crowded, another⟩
  · refine (generate_iff nothing {} ⟨0, 0⟩).2.1.mpr ⟨?_, ?_⟩
    · exact (conflicts_eq_nil_iff_not_clashes sound_empty.owned).mp rfl
    · rintro id pair ⟨device, found, _⟩
      cases found

end Crowd

end Registry

end HomeVoice
