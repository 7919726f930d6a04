import HomeVoice.Proofs.Registry.Sound

/-!
# When two registries are the same

The program compares registries, devices and ranges with `==`, which takes the two zeros of binary64
for one number. What `==` looks at is their essence, so two of them are the same exactly when their
essences are equal, and what is said of essences goes over from one registry to the other.
-/

namespace HomeVoice

open Float.Model (UnpackedFloat)
open Float.Model.UnpackedFloat (Sign)

namespace Decimal

/-- A number without the sign of a zero. -/
def essence (x : Float) : UnpackedFloat :=
  match x.toModel.unpack with
  | .zero _ => .zero .positive
  | other => other

/-- Two finite numbers are the same when their parts are. -/
private theorem beq_finite {sign other : Sign} {mantissa mantissa' : Nat} {exponent exponent' : Int}
    (pos : 0 < mantissa) (pos' : 0 < mantissa') :
    (UnpackedFloat.finite sign mantissa exponent pos).beq
        (.finite other mantissa' exponent' pos') = true ↔
      sign = other ∧ mantissa = mantissa' ∧ exponent = exponent' := by
  cases sign <;> cases other
  case positive.positive =>
    show (some ((compare exponent exponent').then (compare mantissa mantissa')) == some .eq) = true ↔ _
    simp [Ordering.then_eq_eq, and_comm]
  case negative.negative =>
    show (some ((compare exponent exponent').then (compare mantissa mantissa')).swap == some .eq) = true ↔ _
    simp [Ordering.then_eq_eq, Ordering.swap_eq_eq, and_comm]
  all_goals exact iff_of_false nofun nofun

/-- Numbers are the same when their essences are; not-a-number is the same as nothing. -/
theorem beq_iff {x y : Float} :
    x.beq y = true ↔ essence x = essence y ∧ essence x ≠ .notANumber := by
  show x.toModel.unpack.beq y.toModel.unpack = true ↔ _
  unfold essence
  cases x.toModel.unpack with
  | notANumber => exact iff_of_false nofun fun same => same.2 rfl
  | infinity sign =>
    rw [and_iff_left nofun]
    cases y.toModel.unpack with
    | infinity other =>
      cases sign <;> cases other
      case positive.positive => exact iff_of_true rfl rfl
      case negative.negative => exact iff_of_true rfl rfl
      all_goals exact iff_of_false nofun nofun
    | _ => cases sign <;> exact iff_of_false nofun nofun
  | zero sign =>
    rw [and_iff_left nofun]
    cases y.toModel.unpack with
    | zero other => exact iff_of_true rfl rfl
    | infinity other => cases other <;> exact iff_of_false nofun nofun
    | finite other => cases other <;> exact iff_of_false nofun nofun
    | notANumber => exact iff_of_false nofun nofun
  | finite sign =>
    rw [and_iff_left nofun]
    cases y.toModel.unpack with
    | finite other => rw [beq_finite, UnpackedFloat.finite.injEq]
    | infinity other => cases sign <;> cases other <;> exact iff_of_false nofun nofun
    | _ => cases sign <;> exact iff_of_false nofun nofun

theorem essence_eq_notANumber {x : Float} :
    essence x = .notANumber ↔ x.toModel.unpack = .notANumber := by
  unfold essence
  cases x.toModel.unpack with
  | notANumber => exact iff_of_true rfl rfl
  | _ => exact iff_of_false nofun nofun

/-- A number that is less than some other one is a number. -/
theorem essence_ne_of_lt {x y : Float} (below : x < y) :
    essence x ≠ .notANumber ∧ essence y ≠ .notANumber := by
  have compared : x.toModel.unpack.lt y.toModel.unpack = true :=
    of_decide_eq_true (p := x.toModel < y.toModel) below
  rw [Ne, Ne, essence_eq_notANumber, essence_eq_notANumber]
  constructor
  · intro none
    rw [none] at compared
    cases compared
  · intro none
    rw [none] at compared
    cases left : x.toModel.unpack <;> rw [left] at compared <;> cases compared

end Decimal

/-- What `==` looks at in a range. -/
def ValueRange.essence (range : ValueRange) : UnpackedFloat × UnpackedFloat × RangeUnit :=
  (Decimal.essence range.min, Decimal.essence range.max, range.unit)

theorem ValueRange.beq_iff {first second : ValueRange} :
    (first == second) = true ↔ first.essence = second.essence := by
  have numbers := Decimal.essence_ne_of_lt first.ordered
  show (first.min.beq second.min && first.max.beq second.max && first.unit == second.unit) = true ↔ _
  simp [essence, Decimal.beq_iff, numbers, and_assoc]

/-- What `==` looks at in a device. -/
def Device.essence (device : Device) :
    Device × Option (UnpackedFloat × UnpackedFloat × RangeUnit) :=
  ({ device with valueRange := none }, device.valueRange.map ValueRange.essence)

theorem Device.beq_iff {first second : Device} :
    (first == second) = true ↔ first.essence = second.essence := by
  obtain ⟨id, enabled, deviceType, location, raw, range⟩ := first
  obtain ⟨id', enabled', deviceType', location', raw', range'⟩ := second
  show instBEqDevice.beq _ _ = true ↔ _
  have ranges : (range == range') = true ↔
      range.map ValueRange.essence = range'.map ValueRange.essence := by
    cases range <;> cases range' <;> simp [ValueRange.beq_iff]
  simp [instBEqDevice.beq, essence, ranges, and_assoc]

section Maps

variable {κ ν μ : Type} [LT κ] [BEq κ] [LawfulBEq κ] [BEq ν]

omit [LT κ] in
private theorem entries_beq_iff {essence : ν → μ}
    (same : ∀ first second : ν, (first == second) = true ↔ essence first = essence second)
    (first second : List (κ × ν)) :
    (first == second) = true ↔
      (first.map fun entry => (entry.1, essence entry.2)) =
        second.map fun entry => (entry.1, essence entry.2) := by
  induction first generalizing second with
  | nil => cases second <;> simp
  | cons head rest ih =>
    cases second with
    | nil => simp
    | cons other others =>
      rw [List.cons_beq_cons, Bool.and_eq_true, ih]
      show ((head.1 == other.1 && head.2 == other.2) = true ∧ _) ↔ _
      simp [same]

theorem SortedMap.beq_iff {essence : ν → μ}
    (same : ∀ first second : ν, (first == second) = true ↔ essence first = essence second)
    {first second : SortedMap κ ν} :
    (first == second) = true ↔ first.mapValues essence = second.mapValues essence := by
  refine (entries_beq_iff same first.entries second.entries).trans ?_
  constructor
  · intro equal
    exact SortedMap.eq_of_entries equal
  · exact congrArg SortedMap.entries

theorem SortedMap.same_iff_eq [LawfulBEq ν] {first second : SortedMap κ ν} :
    (first == second) = true ↔ first = second := by
  refine (beq_iff_eq (a := first.entries)).trans ?_
  exact ⟨SortedMap.eq_of_entries, congrArg SortedMap.entries⟩

end Maps

namespace Registry

/-- Registries with the same content: only the signs of zeros may differ. -/
structure Same (first second : Registry) : Prop where
  version : first.version = second.version
  devices : first.devices.mapValues Device.essence = second.devices.mapValues Device.essence
  deviceTypes : first.deviceTypes = second.deviceTypes
  customTypes : first.customTypes = second.customTypes
  locations : first.locations = second.locations

theorem beq_iff_same {first second : Registry} :
    (first == second) = true ↔ first.Same second := by
  obtain ⟨version, devices, deviceTypes, customTypes, locations⟩ := first
  obtain ⟨version', devices', deviceTypes', customTypes', locations'⟩ := second
  show instBEqRegistry.beq _ _ = true ↔ _
  simp only [instBEqRegistry.beq, Bool.and_eq_true, SortedMap.beq_iff @Device.beq_iff,
    SortedMap.same_iff_eq, beq_iff_eq]
  constructor
  · rintro ⟨sameVersion, sameDevices, sameTypes, sameDeclared, sameLocations⟩
    exact ⟨sameVersion, sameDevices, sameTypes, sameDeclared, sameLocations⟩
  · rintro ⟨sameVersion, sameDevices, sameTypes, sameDeclared, sameLocations⟩
    exact ⟨sameVersion, sameDevices, sameTypes, sameDeclared, sameLocations⟩

namespace Same

variable {first second third : Registry}

theorem refl (registry : Registry) : registry.Same registry := ⟨rfl, rfl, rfl, rfl, rfl⟩

theorem symm (same : first.Same second) : second.Same first :=
  ⟨same.version.symm, same.devices.symm, same.deviceTypes.symm, same.customTypes.symm,
    same.locations.symm⟩

theorem trans (same : first.Same second) (other : second.Same third) : first.Same third :=
  ⟨same.version.trans other.version, same.devices.trans other.devices,
    same.deviceTypes.trans other.deviceTypes, same.customTypes.trans other.customTypes,
    same.locations.trans other.locations⟩

theorem get? (same : first.Same second) (id : DeviceId) :
    (first.get? id).map Device.essence = (second.get? id).map Device.essence := by
  have devices := congrArg (·.get? id) same.devices
  simp only [SortedMap.get?_mapValues] at devices
  exact devices

theorem exists_get? (same : first.Same second) {id : DeviceId} {device : Device}
    (found : second.get? id = some device) :
    ∃ other, first.get? id = some other ∧ other.essence = device.essence := by
  have essences := same.get? id
  rw [found] at essences
  exact Option.map_eq_some_iff.mp essences

theorem knowsType (same : first.Same second) (deviceType : DeviceType) :
    first.knowsType deviceType = second.knowsType deviceType :=
  knowsType_congr same.deviceTypes deviceType

theorem vocabulary (same : first.Same second) (deviceType : DeviceType) :
    first.vocabulary deviceType = second.vocabulary deviceType :=
  vocabulary_congr same.deviceTypes deviceType

theorem declaredTypes (same : first.Same second) : first.declaredTypes = second.declaredTypes := by
  unfold Registry.declaredTypes
  rw [same.deviceTypes, same.customTypes]

theorem knowsLocation (same : first.Same second) (location : Location) :
    first.knowsLocation location = second.knowsLocation location :=
  knowsLocation_congr same.locations location

theorem sound (same : first.Same second) (sound : first.Sound) : second.Sound where
  owned id device found := by
    obtain ⟨other, present, essence⟩ := same.exists_get? found
    have sameId : other.id = device.id := congrArg (·.1.id) essence
    exact sameId ▸ sound.owned id other present
  placed id device found := by
    obtain ⟨other, present, essence⟩ := same.exists_get? found
    have sameType : other.deviceType = device.deviceType := congrArg (·.1.deviceType) essence
    have sameLocation : other.location = device.location := congrArg (·.1.location) essence
    have fits := checkMembership_eq_ok_iff.mp (sound.placed id other present)
    rw [sameType, sameLocation] at fits
    rw [checkMembership_eq_ok_iff]
    constructor
    · intro deviceType has
      rw [← same.knowsType]
      exact fits.1 deviceType has
    · intro location has
      rw [← same.knowsLocation]
      exact fits.2 location has
  builtin deviceType actions found :=
    (same.vocabulary deviceType).symm.trans (sound.builtin deviceType actions found)
  declared deviceType := by
    rw [← same.customTypes, ← same.knowsType]
    exact sound.declared deviceType
  vocabularies deviceType actions found :=
    sound.vocabularies deviceType actions ((same.vocabulary deviceType).trans found)

end Same

end Registry

end HomeVoice
