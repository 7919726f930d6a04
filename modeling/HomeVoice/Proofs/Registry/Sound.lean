import HomeVoice.Hub.Editing
import HomeVoice.Proofs.Outcome
import HomeVoice.Proofs.Registry.Builtin

/-!
# What every edit keeps

An edit is a number of elementary changes: a device is put in, a device type is declared or a
location is added, and each raises the version by one. Whatever edits made of an empty registry is
sound: devices stand under their own identifiers, their types and locations are known, the built-in
types are there with their vocabularies, and the declared types are the others.
-/

namespace HomeVoice

open Hub (RegistryEdit)

namespace Action

private theorem nodup_distinct_foldl (actions kept : List Action) (apart : kept.Nodup) :
    (actions.foldl (fun kept action => if action ∈ kept then kept else kept ++ [action])
      kept).Nodup := by
  induction actions generalizing kept with
  | nil => exact apart
  | cons action rest ih =>
    rw [List.foldl_cons]
    by_cases known : action ∈ kept
    · rw [if_pos known]
      exact ih kept apart
    · rw [if_neg known]
      refine ih _ (List.nodup_append.mpr ⟨apart, List.pairwise_singleton _ _, ?_⟩)
      intro other member _ here same
      exact known (List.mem_singleton.mp here ▸ same ▸ member)

theorem nodup_distinct (actions : List Action) : (distinct actions).Nodup :=
  nodup_distinct_foldl actions [] List.Pairwise.nil

private theorem distinct_foldl_of_nodup (actions kept : List Action)
    (apart : (kept ++ actions).Nodup) :
    actions.foldl (fun kept action => if action ∈ kept then kept else kept ++ [action]) kept =
      kept ++ actions := by
  induction actions generalizing kept with
  | nil => simp
  | cons action rest ih =>
    have new : action ∉ kept := by
      intro member
      exact (List.nodup_append.mp apart).2.2 action member action List.mem_cons_self rfl
    rw [List.foldl_cons, if_neg new, ih _ (by simpa using apart)]
    simp

/-- A vocabulary without repetition is kept as it is. -/
theorem distinct_of_nodup {actions : List Action} (apart : actions.Nodup) :
    distinct actions = actions :=
  distinct_foldl_of_nodup actions [] apart

private theorem mem_distinct_foldl {action : Action} (actions kept : List Action)
    (known : action ∈ kept) :
    action ∈ actions.foldl (fun kept action =>
      if action ∈ kept then kept else kept ++ [action]) kept := by
  induction actions generalizing kept with
  | nil => exact known
  | cons head rest ih =>
    rw [List.foldl_cons]
    refine ih _ ?_
    by_cases here : head ∈ kept
    · rwa [if_pos here]
    · rw [if_neg here]
      exact List.mem_append_left _ known

theorem distinct_ne_nil {actions : List Action} (given : actions ≠ []) :
    distinct actions ≠ [] := by
  cases actions with
  | nil => exact absurd rfl given
  | cons head rest => exact List.ne_nil_of_mem (mem_distinct_foldl rest [head] List.mem_cons_self)

end Action

namespace Registry

/-- No two devices stand under one identifier, and it is their own. -/
def OwnsIds (registry : Registry) : Prop :=
  ∀ id device, registry.get? id = some device → device.id = id

/-- What every registry is like that edits have made. -/
structure Sound (registry : Registry) : Prop where
  owned : registry.OwnsIds
  placed : ∀ id device, registry.get? id = some device → registry.checkMembership device = .ok ()
  builtin : ∀ deviceType actions, builtinTypes.get? deviceType = some actions →
    registry.vocabulary deviceType = some actions
  declared : ∀ deviceType, registry.customTypes.contains deviceType = true ↔
    registry.knowsType deviceType = true ∧ builtinTypes.get? deviceType = none
  vocabularies : ∀ deviceType actions, registry.vocabulary deviceType = some actions →
    actions ≠ [] ∧ actions.Nodup

/-- Devices come in the order of their identifiers, and no identifier comes twice. -/
theorem OwnsIds.pairwise_values {registry : Registry} (owned : registry.OwnsIds) :
    registry.devices.values.Pairwise fun first second => first.id < second.id := by
  refine List.pairwise_map.mpr (registry.devices.ascending.imp_of_mem ?_)
  intro first second here there below
  rw [owned first.1 first.2 (SortedMap.mem_entries_iff.mp here),
    owned second.1 second.2 (SortedMap.mem_entries_iff.mp there)]
  exact below

theorem get?_empty (id : DeviceId) : empty.get? id = none := rfl

theorem sound_empty : empty.Sound where
  owned id device found := by
    rw [get?_empty] at found
    cases found
  placed id device found := by
    rw [get?_empty] at found
    cases found
  builtin _ _ found := found
  declared deviceType := by
    show false = true ↔ (builtinTypes.get? deviceType).isSome = true ∧ _
    cases builtinTypes.get? deviceType <;> simp
  vocabularies _ _ found := builtinTypes_sound found

theorem knowsType_iff {registry : Registry} {deviceType : DeviceType} :
    registry.knowsType deviceType = true ↔
      ∃ actions, registry.vocabulary deviceType = some actions := SortedMap.contains_iff

theorem Sound.knowsType_of_builtin {registry : Registry} (sound : registry.Sound)
    {deviceType : DeviceType} (builtin : (builtinTypes.get? deviceType).isSome = true) :
    registry.knowsType deviceType = true := by
  obtain ⟨actions, found⟩ := Option.isSome_iff_exists.mp builtin
  exact knowsType_iff.mpr ⟨actions, sound.builtin deviceType actions found⟩

/-- A registry has all types, locations and identifiers of an earlier one, and the types have the
vocabularies that they had. The types that are new have been declared. -/
structure Extends (after before : Registry) : Prop where
  types : ∀ deviceType actions, before.vocabulary deviceType = some actions →
    after.vocabulary deviceType = some actions
  declared : ∀ deviceType, after.customTypes.contains deviceType = true ↔
    before.customTypes.contains deviceType = true ∨
      before.knowsType deviceType = false ∧ after.knowsType deviceType = true
  locations : ∀ location, before.knowsLocation location = true →
    after.knowsLocation location = true
  devices : ∀ id, (before.get? id).isSome = true → (after.get? id).isSome = true

theorem Extends.refl (registry : Registry) : registry.Extends registry where
  types _ _ found := found
  declared deviceType := by cases registry.knowsType deviceType <;> simp
  locations _ known := known
  devices _ known := known

theorem Extends.knowsType {before after : Registry} (extension : after.Extends before)
    {deviceType : DeviceType} (known : before.knowsType deviceType = true) :
    after.knowsType deviceType = true := by
  obtain ⟨actions, found⟩ := knowsType_iff.mp known
  exact knowsType_iff.mpr ⟨actions, extension.types deviceType actions found⟩

theorem Extends.trans {first second third : Registry} (later : third.Extends second)
    (earlier : second.Extends first) : third.Extends first where
  types deviceType actions found := later.types _ _ (earlier.types deviceType actions found)
  declared deviceType := by
    have kept := @Extends.knowsType _ _ earlier deviceType
    have still := @Extends.knowsType _ _ later deviceType
    rw [later.declared, earlier.declared]
    revert kept still
    cases first.knowsType deviceType <;> cases second.knowsType deviceType <;>
      cases third.knowsType deviceType <;> simp
  locations location known := later.locations _ (earlier.locations location known)
  devices id known := later.devices _ (earlier.devices id known)

theorem checkMembership_eq_ok_iff {registry : Registry} {device : Device} :
    registry.checkMembership device = .ok () ↔
      (∀ deviceType, device.deviceType = some deviceType →
        registry.knowsType deviceType = true) ∧
      ∀ location, device.location = some location → registry.knowsLocation location = true := by
  unfold checkMembership
  cases device.deviceType with
  | none =>
    cases device.location with
    | none => simp [pure, Except.pure]
    | some location =>
      cases known : registry.knowsLocation location <;>
        simp [known, throw, throwThe, MonadExceptOf.throw, pure, Except.pure]
  | some deviceType =>
    cases type : registry.knowsType deviceType with
    | false => simp [type, throw, throwThe, MonadExceptOf.throw, bind, Except.bind]
    | true =>
      cases device.location with
      | none => simp [type, pure, Except.pure]
      | some location =>
        cases known : registry.knowsLocation location <;>
          simp [type, known, throw, throwThe, MonadExceptOf.throw, pure, Except.pure]

section Parts

variable (registry : Registry)

@[simp] theorem get?_bump : registry.bump.get? = registry.get? := rfl

@[simp] theorem locations_bump : registry.bump.locations = registry.locations := rfl

theorem get?_put (device : Device) (id : DeviceId) :
    (registry.put device).get? id = if device.id = id then some device else registry.get? id :=
  SortedMap.get?_insert ..

theorem vocabulary_congr {first second : Registry} (same : first.deviceTypes = second.deviceTypes)
    (deviceType : DeviceType) : first.vocabulary deviceType = second.vocabulary deviceType := by
  unfold vocabulary
  rw [same]

theorem knowsType_congr {first second : Registry} (same : first.deviceTypes = second.deviceTypes)
    (deviceType : DeviceType) : first.knowsType deviceType = second.knowsType deviceType := by
  unfold knowsType
  rw [same]

theorem knowsLocation_congr {first second : Registry} (same : first.locations = second.locations)
    (location : Location) : first.knowsLocation location = second.knowsLocation location := by
  unfold knowsLocation
  rw [same]

theorem get?_declaredTypes {registry : Registry} {deviceType : DeviceType}
    {actions : List Action} :
    registry.declaredTypes.get? deviceType = some actions ↔
      registry.vocabulary deviceType = some actions ∧
        registry.customTypes.contains deviceType = true := by
  unfold declaredTypes
  rw [SortedMap.get?_filter, Option.filter_eq_some_iff]
  rfl

theorem mem_declaredTypes {registry : Registry} {entry : DeviceType × List Action} :
    entry ∈ registry.declaredTypes.entries ↔
      registry.vocabulary entry.1 = some entry.2 ∧
        registry.customTypes.contains entry.1 = true :=
  SortedMap.mem_entries_iff.trans get?_declaredTypes

theorem vocabulary_declare (deviceType other : DeviceType) (actions : List Action) :
    (registry.declare deviceType actions).vocabulary other =
      if deviceType = other then some actions else registry.vocabulary other :=
  SortedMap.get?_insert ..

theorem knowsType_declare {deviceType other : DeviceType} {actions : List Action} :
    (registry.declare deviceType actions).knowsType other = true ↔
      deviceType = other ∨ registry.knowsType other = true := by
  simp only [knowsType, declare, SortedMap.contains, SortedMap.get?_insert]
  by_cases here : deviceType = other <;> simp [here]

theorem contains_customTypes_declare {deviceType other : DeviceType} {actions : List Action} :
    (registry.declare deviceType actions).customTypes.contains other = true ↔
      deviceType = other ∨ registry.customTypes.contains other = true := by
  simp only [declare, SortedMap.contains, SortedMap.get?_insert]
  by_cases here : deviceType = other <;> simp [here]

theorem declaredTypes_declare (deviceType : DeviceType) (actions : List Action) :
    (registry.declare deviceType actions).declaredTypes =
      registry.declaredTypes.insert deviceType actions := by
  apply SortedMap.ext
  intro other
  apply Option.ext
  intro found
  rw [get?_declaredTypes, vocabulary_declare, contains_customTypes_declare, SortedMap.get?_insert]
  by_cases here : deviceType = other
  · simp [here]
  · simp [here, get?_declaredTypes]

/-- Types that are declared one after the other are written to both fields. -/
theorem foldl_declare (entries : List (DeviceType × List Action)) :
    entries.foldl (fun registry entry => registry.declare entry.1 entry.2) registry =
      { registry with
        deviceTypes := entries.foldl (fun types entry => types.insert entry.1 entry.2)
          registry.deviceTypes
        customTypes := entries.foldl (fun names entry => names.add entry.1)
          registry.customTypes } := by
  induction entries generalizing registry with
  | nil => rfl
  | cons entry rest ih => exact ih (registry.declare entry.1 entry.2)

theorem declaredTypes_foldl_declare (entries : List (DeviceType × List Action)) :
    (entries.foldl (fun registry entry => registry.declare entry.1 entry.2)
        registry).declaredTypes =
      entries.foldl (fun types entry => types.insert entry.1 entry.2) registry.declaredTypes := by
  induction entries generalizing registry with
  | nil => rfl
  | cons entry rest ih =>
    rw [List.foldl_cons, ih, declaredTypes_declare]
    rfl

theorem insertType_eq_ok_iff {registry next : Registry} {deviceType : DeviceType}
    {actions : List Action} :
    registry.insertType deviceType actions = .ok next ↔
      registry.knowsType deviceType = false ∧ actions ≠ [] ∧
        next = registry.declare deviceType (Action.distinct actions) := by
  unfold insertType
  cases registry.knowsType deviceType with
  | true => simp
  | false => cases actions <;> simp [eq_comm]

/-- A registry knows all types and locations that another one knows. -/
structure Covers (registry other : Registry) : Prop where
  types : ∀ deviceType, other.knowsType deviceType = true → registry.knowsType deviceType = true
  locations : ∀ location, other.knowsLocation location = true →
    registry.knowsLocation location = true

theorem Covers.refl : registry.Covers registry := ⟨fun _ known => known, fun _ known => known⟩

theorem Covers.trans {first second third : Registry} (later : first.Covers second)
    (earlier : second.Covers third) : first.Covers third :=
  ⟨fun _ known => later.types _ (earlier.types _ known),
    fun _ known => later.locations _ (earlier.locations _ known)⟩

theorem Extends.covers {before after : Registry} (extension : after.Extends before) :
    after.Covers before :=
  ⟨fun _ known => extension.knowsType known, extension.locations⟩

/-- Of a sound registry no extension loses a built-in type or declares one. -/
theorem Extends.sound {before after : Registry} (extension : after.Extends before)
    (sound : before.Sound) (owned : after.OwnsIds)
    (placed : ∀ id device, after.get? id = some device → after.checkMembership device = .ok ())
    (vocabularies : ∀ deviceType actions, after.vocabulary deviceType = some actions →
      actions ≠ [] ∧ actions.Nodup) : after.Sound where
  owned := owned
  placed := placed
  builtin deviceType actions found := extension.types _ _ (sound.builtin deviceType actions found)
  declared deviceType := by
    have builtin := @Sound.knowsType_of_builtin _ sound deviceType
    have kept := @Extends.knowsType _ _ extension deviceType
    rw [extension.declared, sound.declared]
    cases known : before.knowsType deviceType with
    | true => simp [kept known]
    | false =>
      rw [known] at builtin
      cases other : builtinTypes.get? deviceType with
      | none => simp
      | some _ =>
        rw [other] at builtin
        exact absurd (builtin rfl) Bool.false_ne_true
  vocabularies := vocabularies

/-- A device that fits into a registry fits into every one that covers it. -/
theorem Covers.checkMembership {before after : Registry} (covers : after.Covers before)
    {device : Device} (fits : before.checkMembership device = .ok ()) :
    after.checkMembership device = .ok () := by
  rw [checkMembership_eq_ok_iff] at fits ⊢
  exact ⟨fun deviceType has => covers.types _ (fits.1 deviceType has),
    fun location has => covers.locations _ (fits.2 location has)⟩

end Parts

end Registry

/-- If the device has a range it is of a given kind. -/
def Device.RangeIn (Allowed : ValueRange → Prop) (device : Device) : Prop :=
  ∀ range, device.valueRange = some range → Allowed range

namespace Registry

/-- The ranges of all devices are of a given kind. -/
def RangesIn (Allowed : ValueRange → Prop) (registry : Registry) : Prop :=
  ∀ id device, registry.get? id = some device → device.RangeIn Allowed

theorem rangesIn_true (registry : Registry) : registry.RangesIn fun _ => True :=
  fun _ _ _ _ _ => trivial

/-- An elementary change. -/
inductive Change (Allowed : ValueRange → Prop) : Registry → Registry → Prop where
  | device {registry : Registry} {device : Device}
      (fits : registry.checkMembership device = .ok ()) (allowed : device.RangeIn Allowed) :
      Change Allowed registry (registry.put device).bump
  | type {registry next : Registry} {deviceType : DeviceType} {actions : List Action}
      (declared : registry.insertType deviceType actions = .ok next) :
      Change Allowed registry next.bump
  | location {registry : Registry} {location : Location}
      (new : registry.knowsLocation location = false) :
      Change Allowed registry { registry with locations := registry.locations.add location }.bump

variable {Allowed : ValueRange → Prop} {before after : Registry}

theorem Change.version (change : Change Allowed before after) :
    after.version = before.version + 1 := by
  cases change with
  | device fits allowed => rfl
  | location new => rfl
  | type declared =>
    obtain ⟨_, _, rfl⟩ := insertType_eq_ok_iff.mp declared
    rfl

theorem Change.extensive (change : Change Allowed before after) : after.Extends before := by
  have same := (Extends.refl before).declared
  cases change with
  | @device device fits allowed =>
    refine ⟨fun _ _ found => found, same, fun _ known => known, ?_⟩
    intro id known
    rw [get?_bump, get?_put]
    split
    · rfl
    · exact known
  | @location location new =>
    refine ⟨fun _ _ found => found, same, ?_, fun _ known => known⟩
    intro other known
    rw [knowsLocation, SortedMap.contains_iff] at known ⊢
    obtain ⟨_, found⟩ := known
    refine ⟨(), ?_⟩
    rw [locations_bump, SortedMap.get?_insert]
    split
    · rfl
    · exact found
  | @type next deviceType actions declared =>
    obtain ⟨new, _, rfl⟩ := insertType_eq_ok_iff.mp declared
    refine ⟨?_, ?_, fun _ known => known, fun _ known => known⟩
    · intro other found present
      have apart : deviceType ≠ other := by
        rintro rfl
        rw [knowsType_iff.mpr ⟨found, present⟩] at new
        cases new
      exact (vocabulary_declare ..).trans ((if_neg apart).trans present)
    · intro other
      show (before.declare deviceType (Action.distinct actions)).customTypes.contains other = true ↔
        _ ∨ _ ∧ (before.declare deviceType (Action.distinct actions)).knowsType other = true
      rw [contains_customTypes_declare, knowsType_declare]
      by_cases here : deviceType = other
      · subst here
        simp [new]
      · cases before.knowsType other <;> simp [here]

theorem Change.sound (change : Change Allowed before after) (sound : before.Sound) :
    after.Sound := by
  have extension := change.extensive
  cases change with
  | @device device fits allowed =>
    refine extension.sound sound ?_ ?_ sound.vocabularies
    · intro id found present
      rw [get?_bump, get?_put] at present
      split at present
      next here =>
        cases present
        exact here
      · exact sound.owned id found present
    · intro id found present
      refine extension.covers.checkMembership ?_
      rw [get?_bump, get?_put] at present
      split at present
      · cases present
        exact fits
      · exact sound.placed id found present
  | location new =>
    refine extension.sound sound sound.owned ?_ sound.vocabularies
    intro id found present
    exact extension.covers.checkMembership (sound.placed id found present)
  | @type next deviceType actions declared =>
    obtain ⟨new, given, rfl⟩ := insertType_eq_ok_iff.mp declared
    refine extension.sound sound sound.owned ?_ ?_
    · intro id found present
      exact extension.covers.checkMembership (sound.placed id found present)
    · intro other found present
      have present := (vocabulary_declare ..).symm.trans present
      split at present
      · cases present
        exact ⟨Action.distinct_ne_nil given, Action.nodup_distinct actions⟩
      · exact sound.vocabularies other found present

theorem Change.rangesIn (change : Change Allowed before after) (ranges : before.RangesIn Allowed) :
    after.RangesIn Allowed := by
  cases change with
  | @device device fits allowed =>
    intro id found present
    rw [get?_bump, get?_put] at present
    split at present
    · cases present
      exact allowed
    · exact ranges id found present
  | location new => exact ranges
  | type declared =>
    obtain ⟨_, _, rfl⟩ := insertType_eq_ok_iff.mp declared
    exact ranges

/-- So many elementary changes one after the other. -/
inductive Changes (Allowed : ValueRange → Prop) : Nat → Registry → Registry → Prop where
  | none (registry : Registry) : Changes Allowed 0 registry registry
  | more {count : Nat} {first second third : Registry} (before : Changes Allowed count first second)
      (change : Change Allowed second third) : Changes Allowed (count + 1) first third

namespace Changes

variable {count : Nat}

theorem one (change : Change Allowed before after) : Changes Allowed 1 before after :=
  .more (.none before) change

theorem trans {first second third : Registry} {others : Nat}
    (earlier : Changes Allowed count first second) (later : Changes Allowed others second third) :
    Changes Allowed (count + others) first third := by
  induction later with
  | none => exact earlier
  | more _ change ih => exact .more (ih earlier) change

theorem version (changes : Changes Allowed count before after) :
    after.version = before.version + UInt64.ofNat count := by
  induction changes with
  | none => simp
  | more _ change ih => rw [change.version, ih, UInt64.ofNat_add, UInt64.add_assoc]; rfl

theorem extensive (changes : Changes Allowed count before after) : after.Extends before := by
  induction changes with
  | none => exact .refl _
  | more _ change ih => exact change.extensive.trans ih

theorem sound (changes : Changes Allowed count before after) (sound : before.Sound) :
    after.Sound := by
  induction changes with
  | none => exact sound
  | more _ change ih => exact change.sound (ih sound)

theorem rangesIn (changes : Changes Allowed count before after) (ranges : before.RangesIn Allowed) :
    after.RangesIn Allowed := by
  induction changes with
  | none => exact ranges
  | more _ change ih => exact change.rangesIn (ih ranges)

end Changes

section Edits

variable {registry next : Registry}

theorem changes_of_upsert {device : Device} (done : registry.upsert device = .ok next)
    (allowed : device.RangeIn Allowed) : ∃ count ≤ 1, Changes Allowed count registry next := by
  unfold upsert at done
  obtain ⟨_, fits, done⟩ := bind_eq_ok.mp done
  split at done
  · cases done
    exact ⟨0, Nat.zero_le _, .none registry⟩
  · cases done
    exact ⟨1, Nat.le_refl _, .one (.device fits allowed)⟩

theorem changes_of_setEnabled {id : DeviceId} {enabled : Bool} {device : Device}
    (sound : registry.Sound) (ranges : registry.RangesIn Allowed)
    (done : registry.setEnabled id enabled = .ok (device, next)) :
    ∃ count ≤ 1, Changes Allowed count registry next := by
  unfold setEnabled at done
  split at done
  · cases done
  next known found =>
    cases done
    split
    · exact ⟨0, Nat.zero_le _, .none registry⟩
    · exact ⟨1, Nat.le_refl _, .one (.device (sound.placed id known found) (ranges id known found))⟩

theorem changes_of_assign {id : DeviceId} {deviceType : DeviceType} {location : Location}
    {device : Device} (ranges : registry.RangesIn Allowed)
    (done : registry.assign id deviceType location = .ok (device, next)) :
    ∃ count ≤ 1, Changes Allowed count registry next := by
  unfold assign at done
  dsimp only at done
  rw [require_eq_ok, require_eq_ok] at done
  obtain ⟨type, place, done⟩ := done
  split at done
  · cases done
  next known found =>
    cases done
    split
    · exact ⟨0, Nat.zero_le _, .none registry⟩
    · refine ⟨1, Nat.le_refl _, .one (.device ?_ (ranges id known found))⟩
      rw [checkMembership_eq_ok_iff]
      constructor
      · rintro _ ⟨⟩
        exact type
      · rintro _ ⟨⟩
        exact place

theorem changes_of_addType {deviceType : DeviceType} {actions : List Action}
    (done : registry.addType deviceType actions = .ok next) :
    ∃ count ≤ 1, Changes Allowed count registry next := by
  unfold addType at done
  obtain ⟨_, declared, done⟩ := bind_eq_ok.mp done
  cases done
  exact ⟨1, Nat.le_refl _, .one (.type declared)⟩

theorem changes_of_addLocation (registry : Registry) (location : Location) :
    ∃ count ≤ 1, Changes Allowed count registry (registry.addLocation location).2 := by
  unfold addLocation
  split
  · exact ⟨0, Nat.zero_le _, .none registry⟩
  next new => exact ⟨1, Nat.le_refl _, .one (.location (Bool.eq_false_iff.mpr new))⟩

/-- An imported device has the range of its item or keeps the range that it had. -/
theorem rangeIn_device {item : ImportedDevice} {existing : Option Device}
    (given : ∀ range, item.valueRange = some range → Allowed range)
    (kept : ∀ device, existing = some device → device.RangeIn Allowed) :
    (item.device existing).RangeIn Allowed := by
  intro range has
  unfold ImportedDevice.device at has
  cases own : item.valueRange with
  | some _ =>
    simp only [own, Option.some_or, Option.some.injEq] at has
    exact given range (has ▸ own)
  | none =>
    simp only [own, Option.none_or] at has
    obtain ⟨device, known, has⟩ := Option.bind_eq_some_iff.mp has
    exact kept device known range has

/-- An item adds a location and a device at most. -/
theorem changes_of_importItem {item : ImportedDevice} {report noted : ImportReport}
    (ranges : registry.RangesIn Allowed)
    (given : ∀ range, item.valueRange = some range → Allowed range)
    (done : registry.importItem report item = .ok (next, noted)) :
    ∃ count ≤ 2, Changes Allowed count registry next := by
  unfold importItem at done
  dsimp only at done
  obtain ⟨stored, upserted, done⟩ := bind_eq_ok.mp done
  cases done
  have finish {middle : Registry} {first : Nat} (few : first ≤ 1)
      (earlier : Changes Allowed first registry middle)
      (upserted : middle.upsert (item.device (middle.get? item.id)) = .ok next) :
      ∃ count ≤ 2, Changes Allowed count registry next := by
    obtain ⟨second, fewer, later⟩ := changes_of_upsert upserted
      (rangeIn_device given fun device known => earlier.rangesIn ranges _ device known)
    exact ⟨first + second, by omega, earlier.trans later⟩
  cases located : (Classification.ofDescriptor item.raw).location with
  | none =>
    rw [located] at upserted
    exact finish (Nat.zero_le 1) (.none registry) upserted
  | some location =>
    rw [located] at upserted
    obtain ⟨first, few, earlier⟩ := changes_of_addLocation registry location
    exact finish few earlier upserted

private theorem changes_of_items {batch : List ImportedDevice}
    {state after : Registry × ImportReport} (ranges : state.1.RangesIn Allowed)
    (given : ∀ item ∈ batch, ∀ range, item.valueRange = some range → Allowed range)
    (done : batch.foldlM (fun state item => importItem state.1 state.2 item) state = .ok after) :
    ∃ count ≤ 2 * batch.length, Changes Allowed count state.1 after.1 := by
  induction batch generalizing state with
  | nil =>
    cases done
    exact ⟨0, Nat.zero_le _, .none _⟩
  | cons item rest ih =>
    rw [List.foldlM_cons] at done
    obtain ⟨⟨stored, noted⟩, first, done⟩ := bind_eq_ok.mp done
    obtain ⟨few, bound, earlier⟩ :=
      changes_of_importItem ranges (given item List.mem_cons_self) first
    obtain ⟨others, rest, later⟩ := ih (earlier.rangesIn ranges)
      (fun item member => given item (List.mem_cons_of_mem _ member)) done
    refine ⟨few + others, ?_, earlier.trans later⟩
    simp only [List.length_cons]
    omega

theorem changes_of_importBatch {batch : List ImportedDevice} {report : ImportReport}
    (ranges : registry.RangesIn Allowed)
    (given : ∀ item ∈ batch, ∀ range, item.valueRange = some range → Allowed range)
    (done : registry.importBatch batch = .ok (next, report)) :
    ∃ count ≤ 2 * batch.length, Changes Allowed count registry next := by
  unfold importBatch at done
  obtain ⟨⟨stored, noted⟩, folded, done⟩ := bind_eq_ok.mp done
  cases done
  exact changes_of_items ranges given folded

end Edits

end Registry

namespace Hub.RegistryEdit

/-- The ranges that an edit brings are of a given kind. -/
def RangesIn (Allowed : ValueRange → Prop) : RegistryEdit → Prop
  | upsertDevice device => device.RangeIn Allowed
  | importDevices batch => ∀ item ∈ batch, ∀ range, item.valueRange = some range → Allowed range
  | _ => True

theorem rangesIn_true (edit : RegistryEdit) : edit.RangesIn fun _ => True := by
  cases edit with
  | upsertDevice device => exact fun _ _ => trivial
  | importDevices batch => exact fun _ _ _ _ => trivial
  | _ => trivial

/-- The elementary changes that an edit makes at most. -/
def size : RegistryEdit → Nat
  | importDevices batch => 2 * batch.length
  | _ => 1

/-- An edit that succeeds makes a bounded number of elementary changes. -/
theorem changes_of_run {Allowed : ValueRange → Prop} {edit : RegistryEdit}
    {registry next : Registry} {answer : edit.Answer} (sound : registry.Sound)
    (ranges : registry.RangesIn Allowed) (given : edit.RangesIn Allowed)
    (done : edit.run registry = .ok (answer, next)) :
    ∃ count ≤ edit.size, Registry.Changes Allowed count registry next := by
  cases edit with
  | upsertDevice device =>
    obtain ⟨_, upserted, same⟩ := map_eq_ok.mp done
    cases same
    exact Registry.changes_of_upsert (mapError_eq_ok.mp upserted) given
  | setEnabled id enabled => exact Registry.changes_of_setEnabled sound ranges done
  | assign id deviceType location => exact Registry.changes_of_assign ranges done
  | addDeviceType deviceType actions =>
    obtain ⟨_, added, same⟩ := map_eq_ok.mp done
    cases same
    exact Registry.changes_of_addType (mapError_eq_ok.mp added)
  | addLocation location =>
    have same : registry.addLocation location = (answer, next) := Except.ok.inj done
    have changes := @Registry.changes_of_addLocation Allowed registry location
    rwa [same] at changes
  | importDevices batch =>
    obtain ⟨⟨stored, report⟩, imported, same⟩ := map_eq_ok.mp done
    cases same
    exact Registry.changes_of_importBatch ranges given (mapError_eq_ok.mp imported)

theorem sound_of_run {edit : RegistryEdit} {registry next : Registry} {answer : edit.Answer}
    (sound : registry.Sound) (done : edit.run registry = .ok (answer, next)) : next.Sound := by
  obtain ⟨_, _, changes⟩ := changes_of_run sound registry.rangesIn_true edit.rangesIn_true done
  exact changes.sound sound

end Hub.RegistryEdit

end HomeVoice
