import HomeVoice.Proofs.Decimal.Packing
import HomeVoice.Proofs.Import.Merging
import HomeVoice.Proofs.Registry.Commuting

/-!
# One device in the registry

What an edit answers of a device is what the registry has of it then, with one exception: a device
that is inserted and was there before is not written, and the zeros of the one that is there may
have other signs. An edit that does not concern a device leaves it as it is.
-/

namespace HomeVoice

open Float.Model (UnpackedFloat)
open Hub (RegistryEdit)

/-- Finite numbers that are the same, and no zeros, are one. -/
theorem Decimal.eq_of_essence {x y : Float} (left : isFinite x = true) (right : isFinite y = true)
    (same : essence x = essence y) (apart : y.beq 0 = false) : x = y := by
  have unpacked := unpack_eq left
  have unpacked' := unpack_eq right
  by_cases positive' : 0 < (magnitude y).mantissa
  · by_cases positive : 0 < (magnitude x).mantissa
    · rw [dif_pos positive] at unpacked
      rw [dif_pos positive'] at unpacked'
      rw [essence, essence, unpacked, unpacked'] at same
      rw [eq_packed left positive, eq_packed right positive']
      exact congrArg packed same
    · rw [dif_neg positive] at unpacked
      rw [dif_pos positive'] at unpacked'
      rw [essence, essence, unpacked, unpacked'] at same
      cases same
  · rw [dif_neg positive'] at unpacked'
    have origin : essence 0 = .zero .positive := rfl
    have zero : y.beq 0 = true := by
      rw [beq_iff, origin, essence, unpacked']
      exact ⟨rfl, nofun⟩
    rw [zero] at apart
    cases apart

/-- No bound of a range of the device is a zero. -/
def Device.AvoidsZero (device : Device) : Prop :=
  ∀ range, device.valueRange = some range → range.min.beq 0 = false ∧ range.max.beq 0 = false

theorem ValueRange.eq_of_essence {first second : ValueRange} (same : first.essence = second.essence)
    (min : second.min.beq 0 = false) (max : second.max.beq 0 = false) : first = second := by
  obtain ⟨low, high, unit, bounded, ordered⟩ := first
  obtain ⟨low', high', unit', bounded', ordered'⟩ := second
  obtain ⟨finiteLow, finiteHigh⟩ := Bool.and_eq_true_iff.mp bounded
  obtain ⟨finiteLow', finiteHigh'⟩ := Bool.and_eq_true_iff.mp bounded'
  have lows : low = low' := Decimal.eq_of_essence finiteLow finiteLow' (congrArg Prod.fst same) min
  have highs : high = high' :=
    Decimal.eq_of_essence finiteHigh finiteHigh' (congrArg (·.2.1) same) max
  have units : unit = unit' := congrArg (·.2.2) same
  cases lows
  cases highs
  cases units
  rfl

/-- What `==` does not tell from a device without zeros is this device. -/
theorem Device.eq_of_essence {first second : Device} (same : first.essence = second.essence)
    (avoids : second.AvoidsZero) : first = second := by
  have ranges : first.valueRange = second.valueRange := by
    have essences := congrArg Prod.snd same
    simp only [essence] at essences
    cases has : second.valueRange with
    | none =>
      rw [has] at essences
      exact Option.map_eq_none_iff.mp essences
    | some range =>
      rw [has] at essences
      obtain ⟨other, present, equal⟩ := Option.map_eq_some_iff.mp essences
      obtain ⟨min, max⟩ := avoids range has
      rw [present, ValueRange.eq_of_essence equal min max]
  have rest : { first with valueRange := none } = { second with valueRange := none } :=
    congrArg Prod.fst same
  obtain ⟨id, enabled, deviceType, location, raw, range⟩ := first
  obtain ⟨id', enabled', deviceType', location', raw', range'⟩ := second
  cases rest
  cases ranges
  rfl

/-- The registry has the device, or one that differs from it in the signs of zeros at most; where
`exact` holds it has this one. -/
def Registry.HasDevice (registry : Registry) (device : Device) (exact : Prop) : Prop :=
  ∃ kept, registry.get? device.id = some kept ∧ kept.essence = device.essence ∧
    (exact → kept = device)

namespace Registry.HasDevice

variable {registry other : Registry} {device : Device} {exact weaker : Prop}

theorem congr (holds : registry.HasDevice device exact)
    (same : other.get? device.id = registry.get? device.id) : other.HasDevice device exact := by
  obtain ⟨kept, found, rest⟩ := holds
  exact ⟨kept, same.trans found, rest⟩

theorem mono (holds : registry.HasDevice device exact) (implies : weaker → exact) :
    registry.HasDevice device weaker := by
  obtain ⟨kept, found, essence, equal⟩ := holds
  exact ⟨kept, found, essence, fun known => equal (implies known)⟩

/-- A registry that is the same has the same device, if this one has no zeros. -/
theorem of_same (holds : registry.HasDevice device exact) (same : other.Same registry) :
    other.HasDevice device device.AvoidsZero := by
  obtain ⟨kept, found, essence, _⟩ := holds
  obtain ⟨own, present, alike⟩ := same.exists_get? found
  have equal : own.essence = device.essence := alike.trans essence
  exact ⟨own, present, equal, Device.eq_of_essence equal⟩

end Registry.HasDevice

theorem Registry.version_bump_ne (registry : Registry) :
    registry.bump.version ≠ registry.version := by
  intro same
  have numbers := congrArg UInt64.toNat same
  rw [bump, UInt64.toNat_add] at numbers
  have small := registry.version.toNat_lt
  have one : (1 : UInt64).toNat = 1 := rfl
  omega

namespace DeviceEdit

/-- The edit of one device among all edits. -/
def edit : DeviceEdit → RegistryEdit
  | upsert device => .upsertDevice device
  | setEnabled id enabled => .setEnabled id enabled
  | assign id deviceType location => .assign id deviceType location

variable {registry next : Registry} {edit : DeviceEdit} {answer : Device}

theorem exists_run (done : edit.run registry = .ok (answer, next)) :
    ∃ outcome, edit.edit.run registry = .ok (outcome, next) := by
  cases edit <;> exact ⟨answer, done⟩

/-- A device that is inserted is compared with `==`; the other edits look at what they set. -/
theorem verdict_cases {changed : Bool} (made : edit.verdict registry = .ok (answer, changed)) :
    (edit = .upsert answer ∧ changed = !(registry.get? edit.id == some answer)) ∨
      ∃ known, registry.get? edit.id = some known ∧ (changed = false → known = answer) ∧
        (changed = true → known.essence ≠ answer.essence) := by
  cases edit with
  | upsert given =>
    obtain ⟨_, _, same⟩ := map_eq_ok.mp made
    obtain ⟨rfl, rfl⟩ := Prod.mk.inj same
    exact .inl ⟨rfl, rfl⟩
  | setEnabled id enabled =>
    right
    simp only [verdict] at made
    split at made
    · cases made
    next known found =>
      obtain ⟨rfl, change⟩ := Prod.mk.inj (Except.ok.inj made)
      refine ⟨known, found, fun unchanged => ?_, fun changed same => ?_⟩
      · have kept : known.enabled = enabled := by simpa [unchanged] using change
        rw [← kept]
      · have kept : known.enabled = enabled := congrArg (·.1.enabled) same
        simp [kept, changed] at change
  | assign id deviceType location =>
    right
    simp only [verdict] at made
    split at made
    · split at made
      · split at made
        · cases made
        next known found =>
          obtain ⟨rfl, change⟩ := Prod.mk.inj (Except.ok.inj made)
          refine ⟨known, found, fun unchanged => ?_, fun changed same => ?_⟩
          · have kept : known.deviceType = some deviceType ∧ known.location = some location := by
              simpa [unchanged] using change
            rw [← kept.1, ← kept.2]
          · have type : known.deviceType = some deviceType := congrArg (·.1.deviceType) same
            have place : known.location = some location := congrArg (·.1.location) same
            simp [type, place, changed] at change
      · cases made
    · cases made

/-- What is a change is not there before. -/
theorem differs_of_verdict (made : edit.verdict registry = .ok (answer, true)) :
    (registry.get? edit.id == some answer) = false := by
  rcases verdict_cases made with ⟨_, changed⟩ | ⟨known, found, _, apart⟩
  · simpa using changed
  · rw [found, ← Bool.not_eq_true]
    exact fun equal => apart rfl (Device.beq_iff.mp equal)

/-- What is no change is there before, as far as `==` can tell. -/
theorem kept_of_verdict (made : edit.verdict registry = .ok (answer, false)) :
    ∃ kept, registry.get? edit.id = some kept ∧ kept.essence = answer.essence ∧
      (kept = answer ∨ edit = .upsert answer) := by
  rcases verdict_cases made with ⟨inserted, unchanged⟩ | ⟨known, found, same, _⟩
  · have equal : (registry.get? edit.id == some answer) = true := by simpa using unchanged
    cases known : registry.get? edit.id with
    | none =>
      rw [known] at equal
      cases equal
    | some kept =>
      rw [known] at equal
      exact ⟨kept, rfl, Device.beq_iff.mp equal, .inr inserted⟩
  · exact ⟨known, found, congrArg Device.essence (same rfl), .inl (same rfl)⟩

/-- A change is written as it is answered. Where there is none the registry has what is answered,
unless a device was inserted. -/
theorem run_cases (owned : registry.OwnsIds) (done : edit.run registry = .ok (answer, next)) :
    answer.id = edit.id ∧
      (next.version ≠ registry.version ∧ next.get? edit.id = some answer ∧
          (registry.get? edit.id == some answer) = false ∨
        next = registry ∧ ∃ kept, registry.get? edit.id = some kept ∧
          kept.essence = answer.essence ∧ (kept = answer ∨ edit = .upsert answer)) := by
  rw [run_eq] at done
  obtain ⟨⟨device, changed⟩, made, same⟩ := map_eq_ok.mp done
  cases same
  have own := id_of_verdict owned made
  refine ⟨own, ?_⟩
  cases changed with
  | true =>
    refine .inl ⟨registry.version_bump_ne, ?_, differs_of_verdict made⟩
    show ((registry.put device).bump).get? edit.id = _
    rw [Registry.get?_bump, Registry.get?_put, if_pos own]
  | false => exact .inr ⟨rfl, kept_of_verdict made⟩

/-- What an edit answered is what the registry has then. Only the zeros of a device that was
inserted without a change may have had other signs before. -/
theorem hasDevice_of_run (owned : registry.OwnsIds)
    (done : edit.run registry = .ok (answer, next)) :
    next.HasDevice answer
      (answer.AvoidsZero ∨ next.version ≠ registry.version ∨ edit ≠ .upsert answer) := by
  obtain ⟨own, ⟨_, written, _⟩ | ⟨same, kept, found, essence, origin⟩⟩ := run_cases owned done
  · exact ⟨answer, own ▸ written, rfl, fun _ => rfl⟩
  · refine ⟨kept, by rw [same, own, found], essence, ?_⟩
    rintro (avoids | changed | other)
    · exact Device.eq_of_essence essence avoids
    · exact absurd (congrArg Registry.version same) changed
    · exact origin.resolve_right other

/-- An edit leaves all other devices. -/
theorem get?_of_run (owned : registry.OwnsIds) (done : edit.run registry = .ok (answer, next))
    {id : DeviceId} (apart : edit.id ≠ id) : next.get? id = registry.get? id := by
  rw [run_eq] at done
  obtain ⟨⟨device, changed⟩, made, same⟩ := map_eq_ok.mp done
  cases same
  cases changed with
  | true =>
    show ((registry.put device).bump).get? id = _
    rw [Registry.get?_bump, Registry.get?_put, id_of_verdict owned made, if_neg apart]
  | false => rfl

end DeviceEdit

namespace Hub.RegistryEdit

/-- The edit writes the device with this identifier, if it writes anything. -/
def Concerns (id : DeviceId) : RegistryEdit → Prop
  | upsertDevice device => device.id = id
  | setEnabled other _ | assign other _ _ => other = id
  | importDevices batch => ∃ item ∈ batch, item.id = id
  | addDeviceType _ _ | addLocation _ => False

/-- An edit leaves the devices that it does not concern. -/
theorem get?_of_run {edit : RegistryEdit} {registry next : Registry} {answer : edit.Answer}
    (sound : registry.Sound) (done : edit.run registry = .ok (answer, next)) {id : DeviceId}
    (apart : ¬ edit.Concerns id) : next.get? id = registry.get? id := by
  cases edit with
  | upsertDevice device =>
    exact @DeviceEdit.get?_of_run _ _ (.upsert device) _ sound.owned done id apart
  | setEnabled other enabled =>
    exact @DeviceEdit.get?_of_run _ _ (.setEnabled other enabled) _ sound.owned done id apart
  | assign other deviceType location =>
    exact @DeviceEdit.get?_of_run _ _ (.assign other deviceType location) _ sound.owned done id
      apart
  | importDevices batch =>
    cases done.symm.trans (sound.run_importDevices batch)
    have others : batch.filter (·.id = id) = [] := by
      rw [List.filter_eq_nil_iff]
      intro item member here
      exact apart ⟨item, member, of_decide_eq_true here⟩
    rw [Registry.get?_imported, others]
    rfl
  | addDeviceType deviceType actions =>
    obtain ⟨_, added, same⟩ := map_eq_ok.mp done
    cases same
    obtain ⟨_, declared, same⟩ := bind_eq_ok.mp (mapError_eq_ok.mp added)
    cases same
    obtain ⟨_, _, rfl⟩ := Registry.insertType_eq_ok_iff.mp declared
    rfl
  | addLocation location =>
    have same : registry.addLocation location = (answer, next) := Except.ok.inj done
    have others := Registry.get?_addLocation registry location
    rw [same] at others
    exact congrFun others id

end Hub.RegistryEdit

end HomeVoice
