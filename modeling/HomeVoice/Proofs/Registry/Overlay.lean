import HomeVoice.Changeset
import HomeVoice.Proofs.Registry.Same

/-!
# Laying changes over a registry

What a later registry has beyond an earlier one, laid over anything that is the same as the earlier
one, is the same as the later one. The later registry must have lost nothing, for a changeset takes
nothing away. Whatever else leads from the one to the other has at least as much in it.
-/

namespace HomeVoice.Changeset

variable {before after stored : Registry}

theorem mem_devices_between {device : Device} :
    device ∈ (between before after).devices ↔
      (∃ id, after.get? id = some device) ∧ (before.get? device.id == some device) = false := by
  show device ∈ after.devices.values.filter _ ↔ _
  rw [List.mem_filter, SortedMap.mem_values_iff]
  simp [Registry.get?, bne]

theorem mem_customTypes_between {entry : DeviceType × List Action} :
    entry ∈ (between before after).customTypes ↔
      after.vocabulary entry.1 = some entry.2 ∧ after.customTypes.contains entry.1 = true ∧
        before.knowsType entry.1 = false := by
  show entry ∈ after.declaredTypes.entries.filter _ ↔ _
  rw [List.mem_filter, Registry.mem_declaredTypes, and_assoc, Bool.not_eq_true']

/-- A type that an extension has and the earlier registry has not is among the changes. -/
theorem mem_customTypes_of_new (extension : after.Extends before) {deviceType : DeviceType}
    {actions : List Action} (found : after.vocabulary deviceType = some actions)
    (unknown : before.knowsType deviceType = false) :
    (deviceType, actions) ∈ (between before after).customTypes := by
  have known : after.knowsType deviceType = true := Registry.knowsType_iff.mpr ⟨actions, found⟩
  exact mem_customTypes_between.mpr
    ⟨found, (extension.declared deviceType).mpr (.inr ⟨unknown, known⟩), unknown⟩

theorem mem_locations_between {location : Location} :
    location ∈ (between before after).locations ↔
      after.knowsLocation location = true ∧ before.knowsLocation location = false := by
  have known : after.knowsLocation location = true ↔
      ∃ value, after.locations.get? location = some value := SortedMap.contains_iff
  show location ∈ after.locations.keys.filter _ ↔ _
  rw [List.mem_filter, SortedMap.mem_keys_iff, known]
  simp

private theorem devices_overlay (extension : after.Extends before) (owned : after.OwnsIds)
    (same : stored.Same before) :
    ((between before after).overlay stored).devices.mapValues Device.essence =
      after.devices.mapValues Device.essence := by
  apply SortedMap.ext
  intro id
  rw [SortedMap.get?_mapValues, SortedMap.get?_mapValues]
  refine SortedMap.map_get?_foldl_insert Device.id (fun device => device) Device.essence ?_ ?_ id
  · intro device member
    obtain ⟨⟨key, found⟩, _⟩ := mem_devices_between.mp member
    exact owned key device found ▸ found
  · intro wanted absent
    refine (same.get? wanted).trans ?_
    cases found : after.get? wanted with
    | none =>
      cases known : before.get? wanted with
      | none => exact (congrArg _ found).symm
      | some device =>
        have kept := extension.devices wanted (by rw [known]; rfl)
        rw [found] at kept
        cases kept
    | some device =>
      have here : device.id = wanted := owned wanted device found
      have unchanged : (before.get? wanted == some device) = true := by
        cases equal : before.get? wanted == some device with
        | true => rfl
        | false =>
          have changed := mem_devices_between.mpr ⟨⟨wanted, found⟩, here.symm ▸ equal⟩
          exact absurd here (absent device changed)
      have stays : (before.get? wanted).map Device.essence = some device.essence := by
        cases known : before.get? wanted with
        | none => simp [known] at unchanged
        | some other =>
          rw [known] at unchanged
          exact congrArg some (Device.beq_iff.mp unchanged)
      exact stays.trans (congrArg (Option.map Device.essence) found).symm

private theorem deviceTypes_overlay (extension : after.Extends before)
    (same : stored.Same before) :
    ((between before after).overlay stored).deviceTypes = after.deviceTypes := by
  refine SortedMap.foldl_insert_eq Prod.fst Prod.snd
    (fun entry member => (mem_customTypes_between.mp member).1) ?_
  intro wanted absent
  rw [same.deviceTypes]
  cases known : before.deviceTypes.get? wanted with
  | some actions => exact (extension.types wanted actions known).symm
  | none =>
    cases found : after.deviceTypes.get? wanted with
    | none => rfl
    | some actions =>
      have unknown : before.knowsType wanted = false := by
        simp [Registry.knowsType, SortedMap.contains, known]
      exact absurd rfl (absent _ (mem_customTypes_of_new extension found unknown))

theorem contains_customTypes_overlay {changes : Changeset} {registry : Registry}
    {deviceType : DeviceType} :
    (changes.overlay registry).customTypes.contains deviceType = true ↔
      (∃ entry ∈ changes.customTypes, entry.1 = deviceType) ∨
        registry.customTypes.contains deviceType = true :=
  SortedMap.contains_foldl_insert Prod.fst fun _ => ()

theorem knowsType_overlay {changes : Changeset} {registry : Registry} {deviceType : DeviceType} :
    (changes.overlay registry).knowsType deviceType = true ↔
      (∃ entry ∈ changes.customTypes, entry.1 = deviceType) ∨
        registry.knowsType deviceType = true :=
  SortedMap.contains_foldl_insert Prod.fst Prod.snd

private theorem customTypes_overlay (extension : after.Extends before)
    (same : stored.Same before) :
    ((between before after).overlay stored).customTypes = after.customTypes := by
  apply SortedMap.ext_contains
  intro deviceType
  rw [contains_customTypes_overlay, same.customTypes, extension.declared, or_comm]
  refine or_congr_right ?_
  constructor
  · rintro ⟨entry, listed, rfl⟩
    obtain ⟨found, _, unknown⟩ := mem_customTypes_between.mp listed
    exact ⟨unknown, Registry.knowsType_iff.mpr ⟨entry.2, found⟩⟩
  · rintro ⟨unknown, known⟩
    obtain ⟨actions, found⟩ := Registry.knowsType_iff.mp known
    exact ⟨_, mem_customTypes_of_new extension found unknown, rfl⟩

theorem knowsLocation_overlay {changes : Changeset} {registry : Registry} {location : Location} :
    (changes.overlay registry).knowsLocation location = true ↔
      location ∈ changes.locations ∨ registry.knowsLocation location = true := by
  refine (SortedMap.contains_foldl_insert (fun location => location) fun _ => ()).trans ?_
  simp only [exists_eq_right, Registry.knowsLocation]

private theorem locations_overlay (extension : after.Extends before) (same : stored.Same before) :
    ((between before after).overlay stored).locations = after.locations := by
  apply SortedMap.ext_contains
  intro location
  refine knowsLocation_overlay.trans ?_
  rw [mem_locations_between, same.knowsLocation]
  have kept := extension.locations location
  revert kept
  show _ → (_ ↔ after.knowsLocation location = true)
  cases before.knowsLocation location <;> simp

/-- The changes between two registries lead from anything like the first to the like of the
second. -/
theorem overlay_between (extension : after.Extends before) (sound : after.Sound)
    (same : stored.Same before) : ((between before after).overlay stored).Same after where
  version := rfl
  devices := devices_overlay extension sound.owned same
  deviceTypes := deviceTypes_overlay extension same
  customTypes := customTypes_overlay extension same
  locations := locations_overlay extension same

/-- The listed types are laid over the declared ones. -/
theorem declaredTypes_overlay (changes : Changeset) (registry : Registry) :
    (changes.overlay registry).declaredTypes =
      changes.customTypes.foldl (fun types entry => types.insert entry.1 entry.2)
        registry.declaredTypes := by
  have declared := registry.declaredTypes_foldl_declare changes.customTypes
  rw [Registry.foldl_declare] at declared
  exact declared

/-- A device is in the changes, under its own identifier, or was there before. -/
theorem mem_devices_or_get?_of_overlay {changes : Changeset} {registry : Registry} {id : DeviceId}
    {device : Device} (found : (changes.overlay registry).get? id = some device) :
    (device ∈ changes.devices ∧ device.id = id) ∨ registry.get? id = some device := by
  rcases SortedMap.get?_foldl_insert_cases Device.id (fun device => device) found with
    ⟨_, new, here, rfl⟩ | old
  · exact .inl ⟨new, here⟩
  · exact .inr old

/-- A device that the later registry has is written if the earlier one had another or none. -/
theorem get?_overlay (owned : after.OwnsIds) {id : DeviceId} {device : Device}
    (found : after.get? id = some device) :
    ((between before after).overlay stored).get? id =
      if before.get? id == some device then stored.get? id else some device := by
  have own := owned id device found
  have alone : ∀ other ∈ (between before after).devices, other.id = id → other = device := by
    intro other listed here
    obtain ⟨⟨key, present⟩, _⟩ := mem_devices_between.mp listed
    rw [← owned key other present, here, found] at present
    exact (Option.some.inj present).symm
  split
  next unchanged =>
    refine SortedMap.get?_foldl_insert_of_notMem _ ?_
    intro other listed here
    have differs := (mem_devices_between.mp listed).2
    rw [here, alone other listed here, unchanged] at differs
    cases differs
  next changed =>
    have listed : device ∈ (between before after).devices := by
      refine mem_devices_between.mpr ⟨⟨id, found⟩, ?_⟩
      rw [own]
      exact Bool.not_eq_true _ ▸ changed
    have written := @SortedMap.get?_foldl_insert_of_mem _ _ _ _ _ _ _ Device.id
      (fun device => device) _ device stored.devices listed fun other present here =>
        alone other present (here.trans own)
    rwa [own] at written

section Least

variable {changes : Changeset}

/-- Everything in one changeset is in another one, too, and they lead to one version. -/
structure Within (changes others : Changeset) : Prop where
  version : changes.version = others.version
  devices : ∀ device ∈ changes.devices, ∃ other ∈ others.devices, (other == device) = true
  customTypes : ∀ entry ∈ changes.customTypes, entry ∈ others.customTypes
  locations : ∀ location ∈ changes.locations, location ∈ others.locations

/-- Whatever changes lead from one registry to another have all that is new or different. -/
theorem within_of_overlay (owned : after.OwnsIds)
    (leads : (changes.overlay before).Same after) : (between before after).Within changes where
  version := leads.version.symm
  devices device listed := by
    obtain ⟨⟨id, found⟩, differs⟩ := mem_devices_between.mp listed
    have own : device.id = id := owned id device found
    obtain ⟨other, laid, essence⟩ := leads.exists_get? found
    have equal : (other == device) = true := Device.beq_iff.mpr essence
    rcases mem_devices_or_get?_of_overlay laid with ⟨member, _⟩ | kept
    · exact ⟨other, member, equal⟩
    · rw [own, kept] at differs
      exact absurd (equal.symm.trans differs) (by decide)
  customTypes entry listed := by
    obtain ⟨found, _, unknown⟩ := mem_customTypes_between.mp listed
    rw [← leads.vocabulary] at found
    rcases SortedMap.get?_foldl_insert_cases Prod.fst Prod.snd found with
      ⟨other, member, type, actions⟩ | kept
    · exact Prod.ext type actions ▸ member
    · have known : before.knowsType entry.1 = true :=
        Registry.knowsType_iff.mpr ⟨entry.2, kept⟩
      exact absurd (known.symm.trans unknown) (by decide)
  locations location listed := by
    obtain ⟨known, unknown⟩ := mem_locations_between.mp listed
    obtain ⟨value, found⟩ := SortedMap.contains_iff.mp known
    rw [← leads.locations] at found
    rcases SortedMap.get?_foldl_insert_cases (fun location => location) (fun _ => ()) found with
      ⟨other, member, here, _⟩ | kept
    · exact here ▸ member
    · have there : before.knowsLocation location = true := SortedMap.contains_iff.mpr ⟨_, kept⟩
      exact absurd (there.symm.trans unknown) (by decide)

theorem isEmpty_iff : changes.isEmpty = true ↔
    changes.devices = [] ∧ changes.customTypes = [] ∧ changes.locations = [] := by
  simp [isEmpty, and_assoc]

/-- Without entries nothing but the version is laid over a registry. -/
theorem overlay_of_isEmpty (empty : changes.isEmpty = true) (registry : Registry) :
    changes.overlay registry = { registry with version := changes.version } := by
  obtain ⟨devices, customTypes, locations⟩ := isEmpty_iff.mp empty
  simp [overlay, devices, customTypes, locations]

/-- There is nothing to change exactly if the registries differ in their versions at most. -/
theorem isEmpty_between_iff (extension : after.Extends before) (sound : after.Sound) :
    (between before after).isEmpty = true ↔
      ({ before with version := after.version } : Registry).Same after := by
  constructor
  · intro empty
    have leads := overlay_between extension sound (.refl before)
    rwa [overlay_of_isEmpty empty] at leads
  · intro same
    let nothing : Changeset := ⟨after.version, [], [], []⟩
    have within : (between before after).Within nothing := within_of_overlay sound.owned same
    simp only [isEmpty_iff, List.eq_nil_iff_forall_not_mem]
    refine ⟨fun device listed => ?_, fun entry listed => ?_, fun location listed => ?_⟩
    · obtain ⟨_, member, _⟩ := within.devices device listed
      exact List.not_mem_nil member
    · exact List.not_mem_nil (within.customTypes entry listed)
    · exact List.not_mem_nil (within.locations location listed)

end Least

end HomeVoice.Changeset

namespace HomeVoice.Registry

section Covers

variable {stored before after : Registry} {changes : Changeset}

/-- Changes take nothing away. -/
theorem covers_overlay (changes : Changeset) (stored : Registry) :
    (changes.overlay stored).Covers stored where
  types _ known := Changeset.knowsType_overlay.mpr (.inr known)
  locations _ known := Changeset.knowsLocation_overlay.mpr (.inr known)

/-- Whatever covers a registry covers what comes of both by the same changes. -/
theorem Covers.overlay (covers : stored.Covers before) (sound : stored.Sound)
    (later : after.Sound) : ((Changeset.between before after).overlay stored).Covers after where
  types deviceType known := by
    cases old : before.knowsType deviceType with
    | true => exact (covers_overlay _ stored).types _ (covers.types _ old)
    | false =>
      cases builtin : builtinTypes.get? deviceType with
      | some _ =>
        exact (covers_overlay _ stored).types _ (sound.knowsType_of_builtin (by rw [builtin]; rfl))
      | none =>
        obtain ⟨actions, found⟩ := knowsType_iff.mp known
        have declared := (later.declared deviceType).mpr ⟨known, builtin⟩
        have listed : (deviceType, actions) ∈ (Changeset.between before after).customTypes :=
          Changeset.mem_customTypes_between.mpr ⟨found, declared, old⟩
        exact Changeset.knowsType_overlay.mpr (.inl ⟨_, listed, rfl⟩)
  locations location known := by
    cases old : before.knowsLocation location with
    | true => exact (covers_overlay _ stored).locations _ (covers.locations _ old)
    | false =>
      exact Changeset.knowsLocation_overlay.mpr
        (.inl (Changeset.mem_locations_between.mpr ⟨known, old⟩))

/-- Laying changes over a sound registry gives a sound one if that covers the registry from which
they lead. -/
theorem Sound.overlay (sound : stored.Sound) (covers : stored.Covers before) (later : after.Sound) :
    ((Changeset.between before after).overlay stored).Sound where
  owned id device found := by
    rcases Changeset.mem_devices_or_get?_of_overlay found with ⟨_, here⟩ | old
    · exact here
    · exact sound.owned id device old
  placed id device found := by
    rcases Changeset.mem_devices_or_get?_of_overlay found with ⟨new, _⟩ | old
    · obtain ⟨⟨key, present⟩, _⟩ := Changeset.mem_devices_between.mp new
      exact (covers.overlay sound later).checkMembership (later.placed key device present)
    · exact (covers_overlay _ stored).checkMembership (sound.placed id device old)
  builtin deviceType actions found := by
    refine (SortedMap.get?_foldl_insert_of_notMem _ ?_).trans
      (sound.builtin deviceType actions found)
    rintro entry listed rfl
    have declared := (Changeset.mem_customTypes_between.mp listed).2.1
    rw [((later.declared entry.1).mp declared).2] at found
    cases found
  declared deviceType := by
    rw [Changeset.contains_customTypes_overlay, Changeset.knowsType_overlay, sound.declared,
      or_and_right, and_iff_left_of_imp (a := ∃ entry ∈ _, _)]
    rintro ⟨entry, listed, rfl⟩
    exact ((later.declared entry.1).mp (Changeset.mem_customTypes_between.mp listed).2.1).2
  vocabularies deviceType actions found := by
    rcases SortedMap.get?_foldl_insert_cases Prod.fst Prod.snd found with
      ⟨entry, listed, rfl, rfl⟩ | old
    · exact later.vocabularies _ _ (Changeset.mem_customTypes_between.mp listed).1
    · exact sound.vocabularies deviceType actions old

theorem RangesIn.overlay {Allowed : ValueRange → Prop} (held : stored.RangesIn Allowed)
    (later : after.RangesIn Allowed) :
    ((Changeset.between before after).overlay stored).RangesIn Allowed := by
  intro id device found
  rcases Changeset.mem_devices_or_get?_of_overlay found with ⟨new, _⟩ | old
  · obtain ⟨⟨key, present⟩, _⟩ := Changeset.mem_devices_between.mp new
    exact later key device present
  · exact held id device old

end Covers

end HomeVoice.Registry
