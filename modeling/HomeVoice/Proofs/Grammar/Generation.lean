import HomeVoice.Grammar.Artifact
import HomeVoice.Proofs.Registry.Sound

/-!
# What a generated grammar says of its registry

Validation and generation sort the enabled devices by their pairs, each in its own way. Both come
down to one list, the enabled devices under a pair: validation finds a conflict where it has more
than one member, and generation takes its last one. So once a grammar is generated every pair of
its index has exactly one enabled device, and vocabularies and ranges are those of the registry.
-/

namespace HomeVoice

open Time (Timestamp)

theorem Device.pair_eq_some_iff {device : Device} {pair : Pair} :
    device.pair = some pair ↔
      device.deviceType = some pair.deviceType ∧ device.location = some pair.location := by
  obtain ⟨deviceType, location⟩ := pair
  unfold Device.pair
  cases device.deviceType <;> cases device.location <;> simp [pure]

/-- The locations that stand with a device type in the keys of a map. -/
theorem SortedMap.mem_locations_iff {ν : Type} {map : SortedMap Pair ν} {deviceType : DeviceType}
    {location : Location} :
    location ∈ (map.keys.filter (·.deviceType = deviceType)).map (·.location) ↔
      ∃ value, map.get? ⟨deviceType, location⟩ = some value := by
  rw [List.mem_map, ← SortedMap.mem_keys_iff]
  constructor
  · rintro ⟨⟨_, _⟩, listed, rfl⟩
    obtain ⟨member, here⟩ := List.mem_filter.mp listed
    exact of_decide_eq_true here ▸ member
  · intro member
    exact ⟨_, List.mem_filter.mpr ⟨member, decide_eq_true rfl⟩, rfl⟩

namespace Registry

/-- The enabled devices under a pair, in the order of their identifiers. -/
def devicesAt (registry : Registry) (pair : Pair) : List Device :=
  registry.enabledDevices.filter fun device => device.pair = some pair

theorem mem_enabledDevices_iff {registry : Registry} {device : Device} :
    device ∈ registry.enabledDevices ↔
      (∃ id, registry.get? id = some device) ∧ device.enabled = true := by
  simp only [enabledDevices, List.mem_filter, SortedMap.mem_values_iff, get?]

theorem mem_devicesAt_iff {registry : Registry} {pair : Pair} {device : Device} :
    device ∈ registry.devicesAt pair ↔
      device ∈ registry.enabledDevices ∧ device.pair = some pair := by
  simp [devicesAt]

private theorem get?_groups_foldl (devices : List Device) (before : SortedMap Pair (List DeviceId))
    (pair : Pair) :
    (devices.foldl (fun groups device =>
      match device.pair with
      | none => groups
      | some pair => groups.insert pair ((groups.get? pair).getD [] ++ [device.id])) before).get?
        pair =
      match devices.filter fun device => device.pair = some pair with
      | [] => before.get? pair
      | found => some ((before.get? pair).getD [] ++ found.map (·.id)) := by
  induction devices generalizing before with
  | nil => rfl
  | cons head rest ih =>
    rw [List.foldl_cons, ih]
    cases address : head.pair with
    | none => simp [address]
    | some other =>
      by_cases here : other = pair
      · subst here
        rw [List.filter_cons_of_pos (by simp [address])]
        cases rest.filter fun device => device.pair = some other <;> simp
      · simp [address, here, SortedMap.get?_insert]

theorem get?_groups (registry : Registry) (pair : Pair) :
    registry.groups.get? pair =
      match registry.devicesAt pair with
      | [] => none
      | found => some (found.map (·.id)) := by
  refine (get?_groups_foldl registry.enabledDevices .empty pair).trans ?_
  unfold devicesAt
  cases registry.enabledDevices.filter fun device => device.pair = some pair <;> simp

private theorem get?_addressed_foldl (devices : List Device) (before : SortedMap Pair Device)
    (pair : Pair) (enabled : ∀ device ∈ devices, device.enabled = true) :
    (devices.foldl (fun found device =>
      match device.address with
      | none => found
      | some pair => found.insert pair device) before).get? pair =
      (devices.filter fun device => device.pair = some pair).getLast?.or (before.get? pair) := by
  induction devices generalizing before with
  | nil => rfl
  | cons head rest ih =>
    rw [List.foldl_cons, ih _ fun device member => enabled device (List.mem_cons_of_mem _ member)]
    have address : head.address = head.pair := by
      simp [Device.address, enabled head List.mem_cons_self]
    rw [address]
    cases pairing : head.pair with
    | none => simp [pairing]
    | some other =>
      by_cases here : other = pair
      · subst here
        rw [List.filter_cons_of_pos (by simp [pairing])]
        cases rest.filter fun device => device.pair = some other <;>
          simp [List.getLast?_cons]
      · simp [pairing, here, SortedMap.get?_insert]

theorem get?_addressed (registry : Registry) (pair : Pair) :
    registry.addressed.get? pair = (registry.devicesAt pair).getLast? := by
  refine (get?_addressed_foldl registry.enabledDevices .empty pair ?_).trans ?_
  · intro device member
    exact (mem_enabledDevices_iff.mp member).2
  · simp [devicesAt]

/-- There is no conflict exactly when no pair has two enabled devices. -/
theorem conflicts_eq_nil_iff {registry : Registry} :
    registry.validate.conflicts = [] ↔ ∀ pair, (registry.devicesAt pair).length ≤ 1 := by
  simp only [validate, List.filterMap_eq_nil_iff]
  constructor
  · intro clear pair
    have found := get?_groups registry pair
    cases devices : registry.devicesAt pair with
    | nil => simp
    | cons head rest =>
      rw [devices] at found
      have single := clear (pair, _) (SortedMap.mem_entries_iff.mpr found)
      simpa using single
  · intro single group member
    obtain ⟨pair, ids⟩ := group
    have found := SortedMap.mem_entries_iff.mp member
    rw [get?_groups] at found
    have bound := single pair
    split at found
    · cases found
    · cases found
      simpa using bound

/-- Generation looks at three things: the conflicts, whether anything is addressed, and the parts. -/
theorem generate_eq_ite (registry : Registry) (options : GrammarOptions) (time : Timestamp) :
    registry.generate options time =
      if registry.validate.conflicts = [] then
        if registry.addressed.isEmpty then .error (.configuration .emptyRegistry)
        else (registry.grammarSections.mapError .configuration).map fun sections =>
          { grammarText := (Grammar.ofSections sections options registry.version).text
            pairIndex := registry.addressed.mapValues (·.id)
            vocabularies := .ofList (sections.map fun part => (part.deviceType, part.actions))
            valueRanges := .ofList (registry.addressed.values.filterMap fun device =>
              device.valueRange.map (device.id, ·))
            generatedAt := time
            sourceVersion := registry.version
            options }
      else .error (.conflict registry.validate.conflicts) := by
  unfold generate ValidationReport.incompleteOrConflict ValidationReport.isOk
  cases registry.validate.conflicts with
  | cons head rest => rfl
  | nil =>
    rw [if_pos rfl, List.isEmpty_nil, if_pos rfl, ok_bind]
    by_cases nothing : registry.addressed.isEmpty = true
    · rw [if_pos nothing]
      simp only [nothing, if_true]
      rfl
    · rw [if_neg nothing]
      simp only [nothing]
      cases registry.grammarSections <;> rfl

/-- What a registry was like when its grammar could be generated, and what was put together. -/
theorem generate_ok {registry : Registry} {options : GrammarOptions} {time : Timestamp}
    {artifact : Artifact} (made : registry.generate options time = .ok artifact) :
    registry.validate.conflicts = [] ∧ registry.addressed.isEmpty = false ∧
      ∃ sections, registry.grammarSections = .ok sections ∧
        artifact =
          { grammarText := (Grammar.ofSections sections options registry.version).text
            pairIndex := registry.addressed.mapValues (·.id)
            vocabularies := .ofList (sections.map fun part => (part.deviceType, part.actions))
            valueRanges := .ofList (registry.addressed.values.filterMap fun device =>
              device.valueRange.map (device.id, ·))
            generatedAt := time
            sourceVersion := registry.version
            options } := by
  rw [generate_eq_ite] at made
  split at made
  next clear =>
    split at made
    · cases made
    next inhabited =>
      obtain ⟨sections, read, same⟩ := map_eq_ok.mp made
      exact ⟨clear, Bool.eq_false_iff.mpr inhabited, sections, mapError_eq_ok.mp read, same.symm⟩
  · cases made

/-- Without conflicts, with a device and with vocabularies for all types a grammar is generated. -/
theorem generate_eq {registry : Registry} {sections : List Grammar.Section}
    (clear : registry.validate.conflicts = []) (inhabited : registry.addressed.isEmpty = false)
    (read : registry.grammarSections = .ok sections) (options : GrammarOptions) (time : Timestamp) :
    registry.generate options time = .ok
      { grammarText := (Grammar.ofSections sections options registry.version).text
        pairIndex := registry.addressed.mapValues (·.id)
        vocabularies := .ofList (sections.map fun part => (part.deviceType, part.actions))
        valueRanges := .ofList (registry.addressed.values.filterMap fun device =>
          device.valueRange.map (device.id, ·))
        generatedAt := time
        sourceVersion := registry.version
        options } := by
  rw [generate_eq_ite, if_pos clear, if_neg (Bool.eq_false_iff.mp inhabited), read]
  rfl

/-- If no grammar can be generated, none can at any other time. -/
theorem generate_error {registry : Registry} {options : GrammarOptions} {time : Timestamp}
    {error : Error} (failed : registry.generate options time = .error error) (other : Timestamp) :
    registry.generate options other = .error error := by
  rw [generate_eq_ite] at failed ⊢
  split at failed
  next clear =>
    rw [if_pos clear]
    split at failed
    next nothing =>
      rw [if_pos nothing]
      exact failed
    next inhabited =>
      rw [if_neg inhabited]
      cases read : registry.grammarSections with
      | error _ =>
        rw [read] at failed
        exact failed
      | ok _ =>
        rw [read] at failed
        cases failed
  next conflicting =>
    rw [if_neg conflicting]
    exact failed

/-- Every part of a grammar holds what the registry knows of its device type. -/
theorem vocabulary_of_mem_grammarSections {registry : Registry} {sections : List Grammar.Section}
    {part : Grammar.Section} (read : registry.grammarSections = .ok sections)
    (member : part ∈ sections) : registry.vocabulary part.deviceType = some part.actions := by
  obtain ⟨deviceType, _, made⟩ := mem_of_mapM_eq_ok read member
  unfold grammarSection at made
  split at made
  · cases made
  next actions known =>
    cases made
    exact known

theorem get?_id_of_addressed {registry : Registry} (owned : registry.OwnsIds) {pair : Pair}
    {device : Device} (addressed : registry.addressed.get? pair = some device) :
    registry.get? device.id = some device := by
  rw [get?_addressed] at addressed
  have enabled := (mem_devicesAt_iff.mp (List.mem_of_getLast? addressed)).1
  obtain ⟨⟨id, stored⟩, _⟩ := mem_enabledDevices_iff.mp enabled
  rw [owned id device stored]
  exact stored

/-- Of devices with different identifiers every one finds its own range under its identifier. -/
theorem ranges_get? {devices : List Device} {device : Device} (member : device ∈ devices)
    (unique : ∀ other ∈ devices, other.id = device.id → other = device) :
    (SortedMap.ofList (devices.filterMap fun device =>
      device.valueRange.map (device.id, ·))).get? device.id = device.valueRange := by
  have only : ∀ range, (device.id, range) ∈ devices.filterMap (fun device =>
      device.valueRange.map (device.id, ·)) → device.valueRange = some range := by
    intro range listed
    obtain ⟨other, known, made⟩ := List.mem_filterMap.mp listed
    obtain ⟨found, has, same⟩ := Option.map_eq_some_iff.mp made
    obtain ⟨sameId, rfl⟩ := Prod.mk.inj same
    rw [← unique other known sameId]
    exact has
  apply Option.ext
  intro range
  constructor
  · intro found
    exact only range (SortedMap.mem_of_get?_ofList found)
  · intro has
    refine SortedMap.get?_ofList_of_mem ?_ ?_
    · exact List.mem_filterMap.mpr ⟨device, member, by simp [has]⟩
    · intro other listed
      exact Option.some.inj ((only other listed).symm.trans has)

section Generated

variable {registry : Registry} {options : GrammarOptions} {time : Timestamp} {artifact : Artifact}

theorem generate_sourceVersion (made : registry.generate options time = .ok artifact) :
    artifact.sourceVersion = registry.version := by
  obtain ⟨_, _, _, _, rfl⟩ := generate_ok made
  rfl

theorem generate_options (made : registry.generate options time = .ok artifact) :
    artifact.options = options := by
  obtain ⟨_, _, _, _, rfl⟩ := generate_ok made
  rfl

theorem generate_generatedAt (made : registry.generate options time = .ok artifact) :
    artifact.generatedAt = time := by
  obtain ⟨_, _, _, _, rfl⟩ := generate_ok made
  rfl

/-- Under a pair of the index stands one enabled device and no other. -/
theorem devicesAt_of_pairIndex (made : registry.generate options time = .ok artifact) {pair : Pair}
    {id : DeviceId} (indexed : artifact.pairIndex.get? pair = some id) :
    ∃ device, registry.devicesAt pair = [device] ∧ device.id = id := by
  obtain ⟨clear, _, _, _, rfl⟩ := generate_ok made
  rw [SortedMap.get?_mapValues, get?_addressed] at indexed
  have bound := conflicts_eq_nil_iff.mp clear pair
  cases devices : registry.devicesAt pair with
  | nil => simp [devices] at indexed
  | cons device rest =>
    cases rest with
    | nil => exact ⟨device, rfl, by simpa [devices] using indexed⟩
    | cons _ _ => simp [devices] at bound

theorem vocabulary_of_vocabularies (made : registry.generate options time = .ok artifact)
    {deviceType : DeviceType} {actions : List Action}
    (found : artifact.vocabularies.get? deviceType = some actions) :
    registry.vocabulary deviceType = some actions := by
  obtain ⟨_, _, sections, read, rfl⟩ := generate_ok made
  have member := SortedMap.mem_of_get?_ofList found
  obtain ⟨part, known, same⟩ := List.mem_map.mp member
  cases same
  exact vocabulary_of_mem_grammarSections read known

/-- The ranges of an artifact are ranges of devices. -/
theorem valueRanges_rangesIn {Allowed : ValueRange → Prop}
    (made : registry.generate options time = .ok artifact) (allowed : registry.RangesIn Allowed)
    {id : DeviceId} {range : ValueRange} (found : artifact.valueRanges.get? id = some range) :
    Allowed range := by
  obtain ⟨_, _, _, _, rfl⟩ := generate_ok made
  obtain ⟨device, known, has⟩ := List.mem_filterMap.mp (SortedMap.mem_of_get?_ofList found)
  obtain ⟨_, own, same⟩ := Option.map_eq_some_iff.mp has
  cases same
  obtain ⟨pair, standing⟩ := SortedMap.mem_values_iff.mp known
  rw [get?_addressed] at standing
  have enabled := (mem_devicesAt_iff.mp (List.mem_of_getLast? standing)).1
  obtain ⟨⟨key, stored⟩, _⟩ := mem_enabledDevices_iff.mp enabled
  exact allowed key device stored range own

/-- The artifact has the range of a device that stands alone under its pair. -/
theorem valueRanges_get?_of_devicesAt (owned : registry.OwnsIds)
    (made : registry.generate options time = .ok artifact) {pair : Pair} {device : Device}
    (alone : registry.devicesAt pair = [device]) :
    artifact.valueRanges.get? device.id = device.valueRange := by
  obtain ⟨_, _, _, _, rfl⟩ := generate_ok made
  have addressed : registry.addressed.get? pair = some device := by
    rw [get?_addressed, alone]
    rfl
  refine ranges_get? (SortedMap.mem_values_iff.mpr ⟨pair, addressed⟩) ?_
  intro other member same
  obtain ⟨pair', found⟩ := SortedMap.mem_values_iff.mp member
  have first := get?_id_of_addressed owned found
  rw [same, get?_id_of_addressed owned addressed] at first
  exact (Option.some.inj first).symm

end Generated

end Registry

end HomeVoice
