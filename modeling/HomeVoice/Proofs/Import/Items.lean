import HomeVoice.Proofs.Registry.Versions
import Mathlib.Data.List.Induction

/-!
# What one item of a batch does

Importing an item of a batch never fails: the classifier answers built-in types only, the location
that it finds is declared before the device is put in, and whatever else the device has was known
before. So an import is a number of plain changes of the registry, one for each item, each with its
entries in the report.
-/

namespace HomeVoice

open Hub (RegistryEdit applyEdit)

namespace Classifier

/-- Every type that the classifier can name has a built-in vocabulary. -/
theorem isSome_builtinVocabulary?_of_typeName {platform id name deviceClass type : String}
    (named : typeName platform id name deviceClass = some type) :
    (builtinVocabulary? type).isSome = true := by
  unfold typeName at named
  split at named
  next known =>
    cases named
    obtain ⟨before, behind, split, _⟩ := List.lookup_eq_some_iff.mp known
    have listed : (platform, type) ∈ platformTypes := by
      rw [split]
      exact List.mem_append_right _ List.mem_cons_self
    have all : ∀ line ∈ platformTypes, (builtinVocabulary? line.2).isSome = true := by decide
    exact all _ listed
  · split at named
    · split at named
      · cases named
        decide
      · cases named
    · split at named
      · split at named
        next line hit =>
          cases named
          have all : ∀ line ∈ mediaKeywords, (builtinVocabulary? line.2).isSome = true := by decide
          exact all _ (List.mem_of_find?_eq_some hit)
        · cases named
          decide
      · split at named
        · cases named
          split <;> decide
        · cases named

/-- What is read back of a built-in name is the built-in type. -/
theorem isSome_builtinTypes_of_deviceType {raw : Descriptor} {deviceType : DeviceType}
    (guessed : Classifier.deviceType raw = some deviceType) :
    (builtinTypes.get? deviceType).isSome = true := by
  unfold Classifier.deviceType at guessed
  obtain ⟨platform, _, guessed⟩ := Option.bind_eq_some_iff.mp guessed
  obtain ⟨type, named, read⟩ := Option.bind_eq_some_iff.mp guessed
  have builtin := isSome_builtinVocabulary?_of_typeName named
  obtain ⟨line, listed, rfl⟩ := List.mem_map.mp (isSome_builtinVocabulary?_iff.mp builtin)
  obtain ⟨⟨name, again, text⟩, _⟩ := builtinVocabularies_names line listed
  cases again.symm.trans read
  rw [builtinTypes_get?, text]
  exact builtin

end Classifier

namespace ImportedDevice

/-- What the classifier makes of the item. -/
def guess (item : ImportedDevice) : Classification := .ofDescriptor item.raw

/-- The device that is there after the item, where a known one that is the same stays. -/
def stored (item : ImportedDevice) (known : Option Device) : Device :=
  (known.filter (· == item.device known)).getD (item.device known)

theorem stored_essence (item : ImportedDevice) (known : Option Device) :
    (item.stored known).essence = (item.device known).essence := by
  unfold stored
  cases known with
  | none => rfl
  | some device =>
    by_cases same : (device == item.device (some device)) = true
    · simpa [Option.filter, same] using Device.beq_iff.mp same
    · simp [Option.filter, same]

end ImportedDevice

namespace Registry

/-- The registry with the location that is found for an item. -/
def located (registry : Registry) (item : ImportedDevice) : Registry :=
  match item.guess.location with
  | some location => (registry.addLocation location).2
  | none => registry

/-- The registry after an item. -/
def received (registry : Registry) (item : ImportedDevice) : Registry :=
  let device := item.device (registry.get? item.id)
  if registry.get? item.id == some device then registry.located item
  else ((registry.located item).put device).bump

/-- What an item adds to a report. -/
def noted (registry : Registry) (report : ImportReport) (item : ImportedDevice) : ImportReport :=
  let known := registry.get? item.id
  let device := item.device known
  { report with
    created := report.created ++ if known.isNone then [item.id] else []
    updated := report.updated ++ if known.any (· != device) then [item.id] else []
    unchanged := report.unchanged ++ if known.any (· == device) then [item.id] else []
    unclassified := report.unclassified ++ if device.isClassified then [] else [item.id]
    newLocations := report.newLocations ++
      (item.guess.location.filter (!registry.knowsLocation ·)).toList }

section Items

variable {registry : Registry} {item : ImportedDevice}

theorem get?_addLocation (registry : Registry) (location : Location) :
    (registry.addLocation location).2.get? = registry.get? := by
  unfold addLocation
  split <;> rfl

theorem knowsLocation_addLocation {location other : Location} :
    (registry.addLocation location).2.knowsLocation other = true ↔
      registry.knowsLocation other = true ∨ location = other := by
  unfold addLocation
  split
  next known =>
    refine ⟨.inl, ?_⟩
    rintro (before | rfl)
    · exact before
    · exact known
  · simp only [knowsLocation, SortedMap.contains, locations_bump, SortedMap.get?_insert]
    by_cases here : location = other <;> simp [here]

theorem get?_located (registry : Registry) (item : ImportedDevice) :
    (registry.located item).get? = registry.get? := by
  unfold located
  split
  · exact get?_addLocation registry _
  · rfl

theorem knowsLocation_located {location : Location} :
    (registry.located item).knowsLocation location = true ↔
      registry.knowsLocation location = true ∨ item.guess.location = some location := by
  unfold located
  cases found : item.guess.location with
  | none => simp
  | some place => simp [knowsLocation_addLocation]

theorem types_located (registry : Registry) (item : ImportedDevice) :
    (registry.located item).deviceTypes = registry.deviceTypes ∧
      (registry.located item).customTypes = registry.customTypes := by
  unfold located addLocation
  split
  · split <;> exact ⟨rfl, rfl⟩
  · exact ⟨rfl, rfl⟩

theorem knowsType_located (registry : Registry) (item : ImportedDevice) (deviceType : DeviceType) :
    (registry.located item).knowsType deviceType = registry.knowsType deviceType :=
  knowsType_congr (types_located registry item).1 deviceType

theorem get?_received (registry : Registry) (item : ImportedDevice) (id : DeviceId) :
    (registry.received item).get? id =
      if item.id = id then some (item.stored (registry.get? id)) else registry.get? id := by
  have own : (item.device (registry.get? item.id)).id = item.id := rfl
  unfold received
  dsimp only
  split
  next same =>
    rw [get?_located]
    by_cases here : item.id = id
    · subst here
      cases known : registry.get? item.id with
      | none => simp [known] at same
      | some device =>
        rw [known] at same
        have equal : (device == item.device (some device)) = true := same
        simp [ImportedDevice.stored, Option.filter, equal]
    · rw [if_neg here]
  next differs =>
    rw [get?_bump, get?_put, own, get?_located]
    by_cases here : item.id = id
    · subst here
      rw [if_pos rfl, if_pos rfl, ImportedDevice.stored]
      cases known : registry.get? item.id with
      | none => rfl
      | some device =>
        rw [known] at differs
        have apart : ¬ (device == item.device (some device)) = true := differs
        simp [Option.filter, apart]
    · rw [if_neg here, if_neg here]

theorem knowsLocation_received {location : Location} :
    (registry.received item).knowsLocation location = true ↔
      registry.knowsLocation location = true ∨ item.guess.location = some location := by
  rw [← knowsLocation_located]
  unfold received
  dsimp only
  split <;> exact Iff.rfl

theorem types_received (registry : Registry) (item : ImportedDevice) :
    (registry.received item).deviceTypes = registry.deviceTypes ∧
      (registry.received item).customTypes = registry.customTypes := by
  have ⟨types, declared⟩ := types_located registry item
  unfold received
  dsimp only
  split <;> exact ⟨types, declared⟩

/-- Type and location of the device are known, or they were guessed just now. -/
theorem Sound.checkMembership_located (sound : registry.Sound) (item : ImportedDevice) :
    (registry.located item).checkMembership (item.device (registry.get? item.id)) = .ok () := by
  rw [checkMembership_eq_ok_iff]
  constructor
  · intro deviceType has
    rw [knowsType_located]
    rcases Option.or_eq_some_iff.mp has with kept | ⟨_, guessed⟩
    · obtain ⟨device, known, has⟩ := Option.bind_eq_some_iff.mp kept
      exact (checkMembership_eq_ok_iff.mp (sound.placed _ device known)).1 deviceType has
    · exact sound.knowsType_of_builtin (Classifier.isSome_builtinTypes_of_deviceType guessed)
  · intro location has
    rw [knowsLocation_located]
    rcases Option.or_eq_some_iff.mp has with kept | ⟨_, guessed⟩
    · obtain ⟨device, known, has⟩ := Option.bind_eq_some_iff.mp kept
      exact .inl ((checkMembership_eq_ok_iff.mp (sound.placed _ device known)).2 location has)
    · exact .inr guessed

theorem upsert_located (sound : registry.Sound) (item : ImportedDevice) :
    (registry.located item).upsert (item.device (registry.get? item.id)) =
      .ok (registry.received item) := by
  have own : (item.device (registry.get? item.id)).id = item.id := rfl
  unfold upsert received
  rw [sound.checkMembership_located item, ok_bind, own, get?_located]
  dsimp only
  split <;> rfl

/-- The entries for an item, as they are made after its device was put in. -/
theorem noted_eq (registry : Registry) (report : ImportReport) (item : ImportedDevice) :
    registry.noted report item =
      let device := item.device (registry.get? item.id)
      let located := { report with
        newLocations := report.newLocations ++
          (item.guess.location.filter (!registry.knowsLocation ·)).toList
        unclassified := report.unclassified ++ (if device.isClassified then [] else [item.id]) }
      match registry.get? item.id with
      | none => { located with created := located.created ++ [item.id] }
      | some known =>
        if known == device then { located with unchanged := located.unchanged ++ [item.id] }
        else { located with updated := located.updated ++ [item.id] } := by
  unfold noted
  cases known : registry.get? item.id with
  | none => simp
  | some device => cases same : device == item.device (some device) <;> simp [same, bne]

/-- An item is taken in whatever it says. -/
theorem Sound.importItem_eq (sound : registry.Sound) (report : ImportReport)
    (item : ImportedDevice) :
    registry.importItem report item = .ok (registry.received item, registry.noted report item) := by
  have upserted := upsert_located sound item
  rw [noted_eq]
  unfold importItem
  unfold located at upserted
  unfold ImportedDevice.guess at upserted ⊢
  cases found : (Classification.ofDescriptor item.raw).location with
  | none =>
    rw [found] at upserted
    dsimp only at upserted ⊢
    rw [upserted, ok_bind]
    rfl
  | some location =>
    rw [found] at upserted
    dsimp only at upserted ⊢
    rw [get?_addLocation, upserted, ok_bind]
    have new : (registry.addLocation location).1 = !registry.knowsLocation location := by
      unfold addLocation
      cases registry.knowsLocation location <;> rfl
    rw [new, Option.filter_some]
    cases registry.knowsLocation location <;> rfl

theorem Sound.received (sound : registry.Sound) (item : ImportedDevice) :
    (registry.received item).Sound := by
  obtain ⟨_, _, changes⟩ := changes_of_importItem registry.rangesIn_true (fun _ _ => trivial)
    (sound.importItem_eq {} item)
  exact changes.sound sound

end Items

/-- What a batch makes of a registry, and the report on it, which does not have its version yet. -/
def imported (registry : Registry) (batch : List ImportedDevice) : Registry × ImportReport :=
  batch.foldl (fun state item => (state.1.received item, state.1.noted state.2 item)) (registry, {})

section Batch

variable {registry : Registry}

theorem imported_nil (registry : Registry) : registry.imported [] = (registry, {}) := rfl

/-- The last item of a batch comes to what the ones before it have left. -/
theorem imported_concat (registry : Registry) (batch : List ImportedDevice)
    (item : ImportedDevice) :
    registry.imported (batch ++ [item]) =
      ((registry.imported batch).1.received item,
        (registry.imported batch).1.noted (registry.imported batch).2 item) := by
  simp [imported]

theorem Sound.imported (sound : registry.Sound) (batch : List ImportedDevice) :
    (registry.imported batch).1.Sound := by
  induction batch using List.reverseRecOn with
  | nil => exact sound
  | append_singleton batch item ih =>
    rw [imported_concat]
    exact ih.received item

private theorem foldlM_importItem (batch : List ImportedDevice) (state : Registry × ImportReport)
    (sound : state.1.Sound) :
    batch.foldlM (fun state item => importItem state.1 state.2 item) state = .ok
      (batch.foldl (fun state item => (state.1.received item, state.1.noted state.2 item)) state) := by
  induction batch generalizing state with
  | nil => rfl
  | cons item rest ih =>
    rw [List.foldlM_cons, sound.importItem_eq state.2 item, ok_bind, List.foldl_cons]
    exact ih _ (sound.received item)

/-- A batch is taken in whatever it says. -/
theorem Sound.importBatch_eq (sound : registry.Sound) (batch : List ImportedDevice) :
    registry.importBatch batch = .ok ((registry.imported batch).1,
      { (registry.imported batch).2 with registryVersion := (registry.imported batch).1.version }) := by
  unfold importBatch
  rw [foldlM_importItem batch (registry, {}) sound, ok_bind]
  rfl

theorem Sound.run_importDevices (sound : registry.Sound) (batch : List ImportedDevice) :
    (RegistryEdit.importDevices batch).run registry = .ok
      ({ (registry.imported batch).2 with
        registryVersion := (registry.imported batch).1.version }, (registry.imported batch).1) := by
  show ((registry.importBatch batch).mapError Error.configuration).map _ = _
  rw [sound.importBatch_eq batch]
  rfl

/-- What is published after an import is what the batch makes of the registry, also where the
version tells that there is nothing to publish. -/
theorem Sound.published_eq {σ : Type} [Storage σ] (sound : registry.Sound)
    {batch : List ImportedDevice} (fits : batch.length < 0x8000000000000000) {store left : σ}
    {report : ImportReport} {published : Registry}
    (success : applyEdit store registry (RegistryEdit.importDevices batch).run =
      .ok (report, published, left)) :
    published = (registry.imported batch).1 ∧
      report = { (registry.imported batch).2 with registryVersion := published.version } := by
  obtain ⟨next, done, version⟩ := applyEdit_of_version success
  have same : next = published := by
    rcases version with ⟨unchanged, rfl, _⟩ | ⟨_, rfl⟩
    · have small : (RegistryEdit.importDevices batch).size < 0x10000000000000000 := by
        show 2 * batch.length < 0x10000000000000000
        omega
      exact sound.eq_of_run small done unchanged
    · rfl
  have eq := done.symm.trans (sound.run_importDevices batch)
  cases eq
  subst same
  exact ⟨rfl, rfl⟩

end Batch

end Registry

end HomeVoice
