import HomeVoice.Proofs.Grammar.Verdict

/-!
# What validation reports

Whatever edits have made of a registry, its report tells exactly what keeps devices from being
addressed: the pairs under which more than one enabled device stands, with all devices under each
of them, and the enabled devices that stand under none, with what they lack. Both lists are in order
and tell nothing twice. There is no conflict exactly if a pair tells the device that stands under it.
-/

namespace HomeVoice

/-- A device lacks this and nothing else. -/
def Missing.LackedBy (device : Device) : Missing → Prop
  | .deviceType => device.deviceType = none ∧ device.location ≠ none
  | .location => device.deviceType ≠ none ∧ device.location = none
  | .both => device.deviceType = none ∧ device.location = none

theorem Device.missing_eq_some_iff {device : Device} {missing : Missing} :
    device.missing = some missing ↔ missing.LackedBy device := by
  unfold Device.missing
  cases missing <;> cases type : device.deviceType <;> cases place : device.location <;>
    simp [Missing.LackedBy, type, place]

/-- The pair that a conflict is about. -/
def Conflict.pair (conflict : Conflict) : Pair := ⟨conflict.deviceType, conflict.location⟩

namespace Registry

variable {registry : Registry}

section Conflicts

/-- A pair is in conflict if more than one device is under it, and the conflict has them all. -/
theorem mem_conflicts_iff {conflict : Conflict} :
    conflict ∈ registry.validate.conflicts ↔
      1 < (registry.devicesAt conflict.pair).length ∧
        conflict.deviceIds = (registry.devicesAt conflict.pair).map (·.id) := by
  show conflict ∈ registry.groups.entries.filterMap _ ↔ _
  rw [List.mem_filterMap]
  constructor
  · rintro ⟨⟨pair, ids⟩, listed, made⟩
    have found := SortedMap.mem_entries_iff.mp listed
    rw [get?_groups] at found
    split at made
    next several =>
      cases made
      cases devices : registry.devicesAt pair with
      | nil => simp [devices] at found
      | cons first rest =>
        simp only [devices, Option.some.injEq] at found
        show 1 < (registry.devicesAt pair).length ∧ ids = (registry.devicesAt pair).map (·.id)
        rw [devices, ← found]
        exact ⟨by simpa [← found] using several, rfl⟩
    · cases made
  · rintro ⟨several, ids⟩
    refine ⟨(conflict.pair, conflict.deviceIds), SortedMap.mem_entries_iff.mpr ?_, ?_⟩
    · rw [get?_groups, ids]
      cases devices : registry.devicesAt conflict.pair with
      | nil => simp [devices] at several
      | cons first rest => rfl
    · have long : 1 < conflict.deviceIds.length := by rwa [ids, List.length_map]
      exact if_pos long

/-- Conflicts come in the order of their pairs, and no pair comes twice. -/
theorem pairwise_conflicts (registry : Registry) :
    registry.validate.conflicts.Pairwise fun first second => first.pair < second.pair := by
  refine List.pairwise_filterMap.mpr (registry.groups.ascending.imp ?_)
  intro first second below conflict made other made'
  split at made
  · split at made'
    · cases made
      cases made'
      exact below
    · cases made'
  · cases made

/-- The devices of a conflict are those that stand under its pair. -/
theorem mem_deviceIds_iff (owned : registry.OwnsIds) {conflict : Conflict}
    (listed : conflict ∈ registry.validate.conflicts) {id : DeviceId} :
    id ∈ conflict.deviceIds ↔ registry.Stands id conflict.pair := by
  rw [(mem_conflicts_iff.mp listed).2, List.mem_map, stands_iff owned]

theorem pairwise_deviceIds (owned : registry.OwnsIds) {conflict : Conflict}
    (listed : conflict ∈ registry.validate.conflicts) : conflict.deviceIds.Pairwise (· < ·) := by
  rw [(mem_conflicts_iff.mp listed).2]
  exact List.pairwise_map.mpr (pairwise_devicesAt owned conflict.pair)

theorem exists_conflict_iff (owned : registry.OwnsIds) {pair : Pair} :
    (∃ conflict ∈ registry.validate.conflicts, conflict.pair = pair) ↔
      ∃ first second, first ≠ second ∧ registry.Stands first pair ∧ registry.Stands second pair := by
  rw [← one_lt_length_devicesAt_iff owned]
  constructor
  · rintro ⟨conflict, listed, rfl⟩
    exact (mem_conflicts_iff.mp listed).1
  · intro several
    exact ⟨⟨pair.deviceType, pair.location, (registry.devicesAt pair).map (·.id)⟩,
      mem_conflicts_iff.mpr ⟨several, rfl⟩, rfl⟩

end Conflicts

section Incomplete

theorem mem_incomplete_iff (owned : registry.OwnsIds) {entry : IncompleteDevice} :
    entry ∈ registry.validate.incomplete ↔ ∃ device, registry.get? entry.deviceId = some device ∧
      device.enabled = true ∧ entry.missing.LackedBy device := by
  show entry ∈ registry.enabledDevices.filterMap _ ↔ _
  simp only [List.mem_filterMap, mem_enabledDevices_iff, Option.map_eq_some_iff,
    Device.missing_eq_some_iff]
  constructor
  · rintro ⟨device, ⟨⟨id, found⟩, enabled⟩, missing, lacks, rfl⟩
    exact ⟨device, owned id device found ▸ found, enabled, lacks⟩
  · rintro ⟨device, found, enabled, lacks⟩
    refine ⟨device, ⟨⟨_, found⟩, enabled⟩, entry.missing, lacks, ?_⟩
    rw [owned _ device found]

theorem pairwise_incomplete (owned : registry.OwnsIds) :
    registry.validate.incomplete.Pairwise fun first second => first.deviceId < second.deviceId := by
  refine List.pairwise_filterMap.mpr ((pairwise_enabledDevices owned).imp ?_)
  intro first second below entry made other made'
  obtain ⟨_, _, rfl⟩ := Option.map_eq_some_iff.mp made
  obtain ⟨_, _, rfl⟩ := Option.map_eq_some_iff.mp made'
  exact below

end Incomplete

/-- A report tells what there is to tell of the devices of a registry, and nothing else. -/
structure ReportedBy (registry : Registry) (report : ValidationReport) : Prop where
  conflicts : ∀ pair, (∃ conflict ∈ report.conflicts, conflict.pair = pair) ↔
    ∃ first second, first ≠ second ∧ registry.Stands first pair ∧ registry.Stands second pair
  conflictsAscend : report.conflicts.Pairwise fun first second => first.pair < second.pair
  deviceIds : ∀ conflict ∈ report.conflicts, ∀ id,
    id ∈ conflict.deviceIds ↔ registry.Stands id conflict.pair
  deviceIdsAscend : ∀ conflict ∈ report.conflicts, conflict.deviceIds.Pairwise (· < ·)
  incomplete : ∀ id missing, ⟨id, missing⟩ ∈ report.incomplete ↔
    ∃ device, registry.get? id = some device ∧ device.enabled = true ∧ missing.LackedBy device
  incompleteAscend : report.incomplete.Pairwise fun first second =>
    first.deviceId < second.deviceId
  disabled : ∀ id device, registry.get? id = some device → device.enabled = false →
    (∀ conflict ∈ report.conflicts, id ∉ conflict.deviceIds) ∧
      ∀ entry ∈ report.incomplete, entry.deviceId ≠ id
  isOk : report.isOk = true ↔ ∀ first second pair,
    registry.Stands first pair → registry.Stands second pair → first = second

theorem isOk_validate_iff (owned : registry.OwnsIds) :
    registry.validate.isOk = true ↔ ∀ first second pair,
      registry.Stands first pair → registry.Stands second pair → first = second := by
  unfold ValidationReport.isOk
  rw [List.isEmpty_iff, conflicts_eq_nil_iff_not_clashes owned]
  constructor
  · intro clear first second pair one other
    by_contra apart
    exact clear ⟨pair, first, second, apart, one, other⟩
  · rintro single ⟨pair, first, second, apart, one, other⟩
    exact apart (single first second pair one other)

/-- The validation of any registry that edits can make is exact. -/
theorem reportedBy_validate (reached : registry.Reachable) :
    registry.ReportedBy registry.validate where
  conflicts _ := exists_conflict_iff reached.sound.owned
  conflictsAscend := pairwise_conflicts registry
  deviceIds _ listed _ := mem_deviceIds_iff reached.sound.owned listed
  deviceIdsAscend _ listed := pairwise_deviceIds reached.sound.owned listed
  incomplete _ _ := mem_incomplete_iff reached.sound.owned
  incompleteAscend := pairwise_incomplete reached.sound.owned
  disabled id device found disabled := by
    constructor
    · intro conflict listed known
      obtain ⟨other, again, enabled, _⟩ :=
        (mem_deviceIds_iff reached.sound.owned listed).mp known
      cases found.symm.trans again
      rw [disabled] at enabled
      cases enabled
    · rintro entry listed rfl
      obtain ⟨other, again, enabled, _⟩ := (mem_incomplete_iff reached.sound.owned).mp listed
      cases found.symm.trans again
      rw [disabled] at enabled
      cases enabled
  isOk := isOk_validate_iff reached.sound.owned

section Crowd

/-- One more television comes, of which nobody says where it stands. -/
def crowdingMore : List Operation :=
  crowding ++ [.upsert { television "e" (by decide +kernel) tvRoom with location := none }]

theorem reportedBy_validate_crowd :
    ∃ registry, rooms = .ok registry ∧ (registry.afterAll crowdingMore).Reachable ∧
      ((registry.afterAll crowdingMore).validate.conflicts.map fun conflict =>
        (conflict.pair, conflict.deviceIds.map (·.text))) = [(⟨tvRoom, kidsRoom⟩, ["a", "d"])] ∧
      ((registry.afterAll crowdingMore).validate.incomplete.map fun entry =>
        (entry.deviceId.text, entry.missing)) = [("e", .location)] ∧
      (registry.afterAll crowdingMore).ReportedBy (registry.afterAll crowdingMore).validate := by
  have report : rooms.toOption.map (fun registry =>
      (((registry.afterAll crowdingMore).validate.conflicts.map fun conflict =>
        (conflict.pair, conflict.deviceIds.map (·.text))),
      ((registry.afterAll crowdingMore).validate.incomplete.map fun entry =>
        (entry.deviceId.text, entry.missing)))) =
        some ([(⟨tvRoom, kidsRoom⟩, ["a", "d"])], [("e", .location)]) := by
    decide +kernel
  obtain ⟨registry, restored, report⟩ := exists_of_toOption_map report
  obtain ⟨conflicts, incomplete⟩ := Prod.mk.inj report
  have reached : (registry.afterAll crowdingMore).Reachable :=
    ⟨registry, crowdingMore, .restored restored, rfl⟩
  exact ⟨registry, restored, reached, conflicts, incomplete, reportedBy_validate reached⟩

end Crowd

end Registry

end HomeVoice
