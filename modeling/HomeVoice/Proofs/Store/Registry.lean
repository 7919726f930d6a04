import HomeVoice.Proofs.Codec.Device
import HomeVoice.Proofs.Registry.Overlay
import HomeVoice.Proofs.Registry.Restoration
import HomeVoice.Store.Registry

/-!
# What the tables hold of a registry

The tables encode a registry row by row. Committing a changeset lays it over the encoded registry,
and loading the tables gives the encoded registry, if it is sound and the bounds of its ranges
survive being written and read.
-/

namespace HomeVoice

theorem Name.text_lt_text {kind : NameKind} (first second : Name kind) :
    first.text < second.text ↔ first < second := Iff.rfl

theorem DeviceId.text_lt_text (first second : DeviceId) :
    first.text < second.text ↔ first < second := Iff.rfl

namespace Store

open Json (Decoder Value)

theorem readTypeRow_typeRow (entry : DeviceType × List Action) :
    readTypeRow (typeRow entry) = .ok entry := by
  unfold readTypeRow typeRow
  dsimp only
  rw [Name.ofText?_text, Action.decode_ofText]

theorem readName?_text {kind : NameKind} (name : Option (Name kind)) :
    readName? (name.map (·.text)) = some name := by
  cases name with
  | none => rfl
  | some name =>
    rw [Option.map_some, readName?, Option.mapM_some, Name.ofText?_text]
    rfl

theorem readDeviceRow_deviceRow {device : Device} (survives : device.RangeIn ValueRange.Survives) :
    readDeviceRow (device.id.text, deviceRow device) = .ok device := by
  have raw : (Descriptor.decode.ofText device.raw.encode.text).toOption = some device.raw := by
    rw [Descriptor.decode_ofText]
    rfl
  have range : (device.valueRange.map fun range => range.encode.text).mapM
      (fun text => (ValueRange.decode.ofText text).toOption) = some device.valueRange := by
    cases has : device.valueRange with
    | none => rfl
    | some range =>
      rw [Option.map_some, Option.mapM_some, (survives range has).decode_ofText]
      rfl
  have enabled : ((if device.enabled then 1 else 0 : Int) != 0) = device.enabled := by
    cases device.enabled <;> rfl
  unfold readDeviceRow deviceRow
  dsimp only
  rw [DeviceId.ofText?_text, readName?_text, readName?_text, raw, range, enabled]
  rfl

theorem readLocationRow_text (location : Location) :
    readLocationRow location.text = .ok location := by
  unfold readLocationRow
  rw [Name.ofText?_text]

theorem storedVersion_eq_ok_iff {version : UInt64} {stored : Int} :
    storedVersion version = .ok stored ↔
      version.toNat < 0x8000000000000000 ∧ stored = version.toNat := by
  unfold storedVersion
  split
  next small =>
    constructor
    · rintro ⟨⟩
      exact ⟨small, rfl⟩
    · rintro ⟨_, rfl⟩
      rfl
  next large =>
    constructor
    · rintro ⟨⟩
    · rintro ⟨small, _⟩
      exact absurd small large

namespace Tables

/-- The rows of the tables are those of the registry's declared types, locations and devices. -/
structure Encodes (tables : Tables) (registry : Registry) : Prop where
  deviceTypes : tables.deviceTypes.Mirrors Name.text
    (fun actions => (Value.ofList Action.encode actions).text) registry.declaredTypes
  locations : tables.locations.Mirrors Name.text id registry.locations
  devices : tables.devices.Mirrors DeviceId.text deviceRow registry.devices

theorem encodes_empty : ({} : Tables).Encodes .empty where
  deviceTypes := by
    have nothing : Registry.empty.declaredTypes.entries = [] :=
      List.filter_eq_nil_iff.mpr fun _ _ => nofun
    unfold SortedMap.Mirrors
    rw [nothing]
    rfl
  locations := rfl
  devices := rfl

variable {tables next : Tables} {registry : Registry} {changes : Changeset}

/-- A commit writes the version, which fits into 63 bits, and the rows of the changeset, and no
grammar. -/
theorem commit_eq_ok (committed : tables.commit changes = .ok next) :
    changes.version.toNat < 0x8000000000000000 ∧ next.version = some (changes.version.toNat : Int) ∧
      next.artifacts = tables.artifacts := by
  obtain ⟨version, numbered, written⟩ := bind_eq_ok.mp committed
  obtain ⟨small, rfl⟩ := storedVersion_eq_ok_iff.mp numbered
  cases written
  exact ⟨small, rfl, rfl⟩

theorem Encodes.commit (encodes : tables.Encodes registry)
    (committed : tables.commit changes = .ok next) : next.Encodes (changes.overlay registry) := by
  unfold Tables.commit at committed
  obtain ⟨version, _, committed⟩ := bind_eq_ok.mp committed
  cases committed
  exact
    { deviceTypes := by
        rw [Changeset.declaredTypes_overlay]
        exact encodes.deviceTypes.foldl_insert Name.text_lt_text Prod.fst Prod.snd _
      locations := encodes.locations.foldl_insert Name.text_lt_text (fun name => name)
        (fun _ => ()) _
      devices := encodes.devices.foldl_insert DeviceId.text_lt_text Device.id
        (fun device => device) _ }

/-- The tables of a sound registry load as this registry. -/
theorem Encodes.load (encodes : tables.Encodes registry) (sound : registry.Sound)
    (survive : registry.RangesIn ValueRange.Survives)
    (version : tables.version = some (registry.version.toNat : Int)) :
    tables.load = .ok (some registry) := by
  have types : tables.deviceTypes.entries.mapM readTypeRow =
      .ok registry.declaredTypes.entries := by
    rw [encodes.deviceTypes]
    exact mapM_map_eq_ok fun entry _ => readTypeRow_typeRow entry
  have rows : tables.devices.entries =
      registry.devices.values.map fun device => (device.id.text, deviceRow device) := by
    rw [encodes.devices, SortedMap.values, List.map_map]
    refine List.map_congr_left ?_
    intro entry member
    have owned := sound.owned entry.1 entry.2 (SortedMap.mem_entries_iff.mp member)
    simp [owned]
  have devices : tables.devices.entries.mapM readDeviceRow = .ok registry.devices.values := by
    rw [rows]
    refine mapM_map_eq_ok ?_
    intro device member
    obtain ⟨id, found⟩ := SortedMap.mem_values_iff.mp member
    exact readDeviceRow_deviceRow (survive id device found)
  have locations : tables.locations.keys.mapM readLocationRow = .ok registry.locations.keys := by
    have texts : tables.locations.keys = registry.locations.keys.map (·.text) := by
      rw [SortedMap.keys, encodes.locations, SortedMap.keys, List.map_map, List.map_map]
      rfl
    rw [texts]
    exact mapM_map_eq_ok fun location _ => readLocationRow_text location
  unfold Tables.load
  rw [version]
  dsimp only
  refine bind_eq_ok.mpr ⟨_, types, bind_eq_ok.mpr ⟨_, devices, bind_eq_ok.mpr ⟨_, locations, ?_⟩⟩⟩
  have positive : ¬ (registry.version.toNat : Int) < 0 := by omega
  rw [if_neg positive, Int.toNat_natCast, UInt64.ofNat_toNat, sound.restore]
  rfl

/-- The tables load as this registry, or hold nothing and it is empty. -/
structure Holds (tables : Tables) (registry : Registry) : Prop where
  encodes : tables.Encodes registry
  sound : registry.Sound
  survive : registry.RangesIn ValueRange.Survives
  version : tables.version = none ∧ registry = .empty ∨
    tables.version = some (registry.version.toNat : Int)

theorem holds_empty : ({} : Tables).Holds .empty where
  encodes := encodes_empty
  sound := Registry.sound_empty
  survive id device found := by cases found
  version := .inl ⟨rfl, rfl⟩

theorem Holds.load (holds : tables.Holds registry) :
    ∃ loaded, tables.load = .ok loaded ∧ loaded.getD .empty = registry := by
  rcases holds.version with ⟨none, rfl⟩ | version
  · refine ⟨.none, ?_, rfl⟩
    unfold Tables.load
    rw [none]
    rfl
  · exact ⟨some registry, holds.encodes.load holds.sound holds.survive version, rfl⟩

/-- A commit lays the changes over what the tables hold, though they lead from another registry that
it covers. -/
theorem Holds.commit {before after : Registry} (holds : tables.Holds registry)
    (covers : registry.Covers before) (sound : after.Sound)
    (survive : after.RangesIn ValueRange.Survives)
    (committed : tables.commit (.between before after) = .ok next) :
    next.Holds ((Changeset.between before after).overlay registry) where
  encodes := holds.encodes.commit committed
  sound := holds.sound.overlay covers sound
  survive := holds.survive.overlay survive
  version := .inr (commit_eq_ok committed).2.1

/-- Whatever is in the tables: without a version they load as nothing, and with one as a registry of
this version that is restored from some parts. -/
theorem load_cases {loaded : Option Registry} (found : tables.load = .ok loaded) :
    (tables.version = none ∧ loaded = none) ∨
      ∃ version registry, tables.version = some version ∧ 0 ≤ version ∧ loaded = some registry ∧
        ∃ types locations devices,
          Registry.restore (UInt64.ofNat version.toNat) types locations devices = .ok registry := by
  unfold Tables.load at found
  dsimp only at found
  split at found
  next version stored =>
    obtain ⟨types, _, found⟩ := bind_eq_ok.mp found
    obtain ⟨devices, _, found⟩ := bind_eq_ok.mp found
    obtain ⟨locations, _, found⟩ := bind_eq_ok.mp found
    by_cases negative : version < 0
    · rw [if_pos negative] at found
      cases found
    · rw [if_neg negative] at found
      cases restored : Registry.restore (UInt64.ofNat version.toNat) types locations devices with
      | error error =>
        rw [restored] at found
        cases found
      | ok registry =>
        rw [restored] at found
        cases found
        exact .inr ⟨version, registry, stored, Int.not_lt.mp negative, rfl, types, locations,
          devices, restored⟩
  next _ stored =>
    cases found
    refine .inl ⟨?_, rfl⟩
    cases known : tables.version with
    | none => rfl
    | some version => exact absurd known (stored version)

/-- What the tables load as is a registry restored from some parts. -/
theorem restore_of_load (loaded : tables.load = .ok (some registry)) :
    ∃ version types locations devices,
      Registry.restore version types locations devices = .ok registry := by
  rcases load_cases loaded with ⟨_, none⟩ | ⟨_, _, _, _, same, restored⟩
  · cases none
  · cases same
    exact ⟨_, restored⟩

theorem sound_of_load {loaded : Option Registry} (found : tables.load = .ok loaded) :
    (loaded.getD .empty).Sound := by
  rcases load_cases found with ⟨_, rfl⟩ | ⟨_, registry, _, _, rfl, _, _, _, restored⟩
  · exact Registry.sound_empty
  · exact Registry.sound_of_restore restored

end Tables

end Store

end HomeVoice
