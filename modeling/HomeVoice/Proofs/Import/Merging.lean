import HomeVoice.Proofs.Import.Items

/-!
# What an import makes of the devices

Of all items of a batch only those with its identifier touch a device, and they are merged into it
one after the other. Type and location are kept once they are there and otherwise come from the first
item of which the classifier tells them. The last item that says so enables or disables the device,
the last one that brings a range replaces the range, and the raw attributes are those of the last
item. Types stay as they are, and the new locations are those that the classifier finds.
-/

namespace HomeVoice

open Hub (RegistryEdit applyEdit)

namespace ImportedDevice

section Stored

variable (item : ImportedDevice) (known : Option Device)

theorem stored_enabled :
    (item.stored known).enabled = item.enabled.getD ((known.map (·.enabled)).getD false) :=
  congrArg (·.1.enabled) (item.stored_essence known)

theorem stored_deviceType :
    (item.stored known).deviceType = (known.bind (·.deviceType)).or item.guess.deviceType :=
  congrArg (·.1.deviceType) (item.stored_essence known)

theorem stored_location :
    (item.stored known).location = (known.bind (·.location)).or item.guess.location :=
  congrArg (·.1.location) (item.stored_essence known)

theorem stored_raw : (item.stored known).raw = item.raw :=
  congrArg (·.1.raw) (item.stored_essence known)

theorem stored_range :
    (item.stored known).valueRange.map ValueRange.essence =
      (item.valueRange.or (known.bind (·.valueRange))).map ValueRange.essence :=
  congrArg (·.2) (item.stored_essence known)

/-- The range is exactly the one that was there or exactly the one of the item. -/
theorem stored_range_cases :
    (item.stored known).valueRange = known.bind (·.valueRange) ∨
      ∃ range, item.valueRange = some range ∧ (item.stored known).valueRange = some range := by
  unfold stored
  cases kept : known.filter (· == item.device known) with
  | some device =>
    obtain ⟨rfl, _⟩ := Option.filter_eq_some_iff.mp kept
    exact .inl rfl
  | none =>
    cases own : item.valueRange with
    | none => exact .inl (by simp [device, own])
    | some range => exact .inr ⟨range, rfl, by simp [device, own]⟩

end Stored

/-- The device that is there after several items with its identifier. -/
def storedAll (items : List ImportedDevice) (known : Option Device) : Option Device :=
  items.foldl (fun known item => some (item.stored known)) known

section Items

variable (items : List ImportedDevice) (known : Option Device)

theorem storedAll_concat (item : ImportedDevice) :
    storedAll (items ++ [item]) known = some (item.stored (storedAll items known)) := by
  simp [storedAll]

/-- What is kept once it is there is what was there, or else what the first item gives that gives
anything. -/
theorem storedAll_bind {α : Type} (field : Device → Option α) (given : ImportedDevice → Option α)
    (kept : ∀ (item : ImportedDevice) known,
      field (item.stored known) = (known.bind field).or (given item)) :
    (storedAll items known).bind field = (known.bind field).or (items.findSome? given) := by
  induction items using List.reverseRecOn with
  | nil => simp [storedAll]
  | append_singleton items item ih =>
    rw [storedAll_concat, Option.bind_some, kept, ih, List.findSome?_append, Option.or_assoc]
    simp

theorem storedAll_enabled :
    ((storedAll items known).map (·.enabled)).getD false =
      (items.reverse.findSome? (·.enabled)).getD ((known.map (·.enabled)).getD false) := by
  induction items using List.reverseRecOn with
  | nil => rfl
  | append_singleton items item ih =>
    rw [storedAll_concat, Option.map_some, Option.getD_some, stored_enabled, ih,
      List.reverse_concat, List.findSome?_cons]
    cases item.enabled <;> rfl

theorem storedAll_raw :
    (storedAll items known).map (·.raw) = (items.getLast?.map (·.raw)).or (known.map (·.raw)) := by
  induction items using List.reverseRecOn with
  | nil => rfl
  | append_singleton items item ih =>
    rw [storedAll_concat, Option.map_some, stored_raw, List.getLast?_concat]
    rfl

theorem storedAll_range :
    ((storedAll items known).bind (·.valueRange)).map ValueRange.essence =
      ((items.reverse.findSome? (·.valueRange)).or (known.bind (·.valueRange))).map
        ValueRange.essence := by
  induction items using List.reverseRecOn with
  | nil => rfl
  | append_singleton items item ih =>
    rw [storedAll_concat, Option.bind_some, stored_range, List.reverse_concat, List.findSome?_cons]
    cases item.valueRange with
    | none => simpa using ih
    | some range => rfl

theorem storedAll_range_cases :
    (storedAll items known).bind (·.valueRange) = known.bind (·.valueRange) ∨
      ∃ item ∈ items, ∃ range, item.valueRange = some range ∧
        (storedAll items known).bind (·.valueRange) = some range := by
  induction items using List.reverseRecOn with
  | nil => exact .inl rfl
  | append_singleton items item ih =>
    rw [storedAll_concat, Option.bind_some]
    rcases item.stored_range_cases (storedAll items known) with same | ⟨range, own, has⟩
    · rw [same]
      refine ih.imp_right ?_
      rintro ⟨other, listed, given⟩
      exact ⟨other, List.mem_append_left _ listed, given⟩
    · exact .inr ⟨item, List.mem_append_right _ List.mem_cons_self, range, own, has⟩

end Items

end ImportedDevice

/-- A device is what items with its identifier make of a device that was known before or was not. -/
structure Device.MergedFrom (device : Device) (known : Option Device)
    (items : List ImportedDevice) : Prop where
  deviceType : device.deviceType =
    (known.bind (·.deviceType)).or (items.findSome? (·.guess.deviceType))
  location : device.location = (known.bind (·.location)).or (items.findSome? (·.guess.location))
  enabled : device.enabled =
    (items.reverse.findSome? (·.enabled)).getD ((known.map (·.enabled)).getD false)
  raw : items.getLast?.map (·.raw) = some device.raw
  range : device.valueRange = known.bind (·.valueRange) ∨
    ∃ item ∈ items, ∃ range, item.valueRange = some range ∧ device.valueRange = some range
  /-- The last range counts, but for the sign of a zero. -/
  sameRange : device.valueRange.map ValueRange.essence =
    ((items.reverse.findSome? (·.valueRange)).or (known.bind (·.valueRange))).map ValueRange.essence

/-- Items leave a device, and it is merged from them. -/
theorem ImportedDevice.storedAll_mergedFrom {items : List ImportedDevice} (given : items ≠ [])
    (known : Option Device) :
    ∃ device, storedAll items known = some device ∧ device.MergedFrom known items := by
  obtain ⟨item, last⟩ := Option.isSome_iff_exists.mp (List.getLast?_isSome.mpr given)
  have raw := storedAll_raw items known
  rw [last, Option.map_some, Option.some_or] at raw
  obtain ⟨device, left, raw⟩ := Option.map_eq_some_iff.mp raw
  have deviceType := storedAll_bind items known (·.deviceType) (·.guess.deviceType) stored_deviceType
  have location := storedAll_bind items known (·.location) (·.guess.location) stored_location
  have enabled := storedAll_enabled items known
  have range := storedAll_range_cases items known
  have sameRange := storedAll_range items known
  rw [left] at deviceType location enabled range sameRange
  refine ⟨device, left, deviceType, location, enabled, ?_, range, sameRange⟩
  rw [last, raw, Option.map_some]

namespace Registry

variable {registry : Registry} {batch : List ImportedDevice}

/-- A device is touched by the items with its identifier and by no other. -/
theorem get?_imported (registry : Registry) (batch : List ImportedDevice) (id : DeviceId) :
    (registry.imported batch).1.get? id =
      ImportedDevice.storedAll (batch.filter (·.id = id)) (registry.get? id) := by
  induction batch using List.reverseRecOn with
  | nil => rfl
  | append_singleton batch item ih =>
    rw [imported_concat, get?_received, ih, List.filter_append]
    by_cases here : item.id = id
    · have taken : [item].filter (·.id = id) = [item] := by simp [here]
      rw [if_pos here, taken, ImportedDevice.storedAll_concat]
    · have passed : [item].filter (·.id = id) = [] := by simp [here]
      rw [if_neg here, passed, List.append_nil]

theorem knowsLocation_imported {location : Location} :
    (registry.imported batch).1.knowsLocation location = true ↔
      registry.knowsLocation location = true ∨
        ∃ item ∈ batch, item.guess.location = some location := by
  induction batch using List.reverseRecOn with
  | nil => simp [imported_nil]
  | append_singleton batch item ih =>
    rw [imported_concat, knowsLocation_received, ih, or_assoc]
    simp only [List.mem_append, List.mem_singleton, or_and_right, exists_or, exists_eq_left]

theorem types_imported (registry : Registry) (batch : List ImportedDevice) :
    (registry.imported batch).1.deviceTypes = registry.deviceTypes ∧
      (registry.imported batch).1.customTypes = registry.customTypes := by
  induction batch using List.reverseRecOn with
  | nil => exact ⟨rfl, rfl⟩
  | append_singleton batch item ih =>
    have ⟨types, declared⟩ := types_received (registry.imported batch).1 item
    rw [imported_concat]
    exact ⟨types.trans ih.1, declared.trans ih.2⟩

/-- A registry is another one into which a batch was merged. -/
structure MergedFrom (after before : Registry) (batch : List ImportedDevice) : Prop where
  absent : ∀ id, (∀ item ∈ batch, item.id ≠ id) → after.get? id = before.get? id
  present : ∀ id, (∃ item ∈ batch, item.id = id) → ∃ device, after.get? id = some device ∧
    device.MergedFrom (before.get? id) (batch.filter (·.id = id))
  types : after.deviceTypes = before.deviceTypes ∧ after.customTypes = before.customTypes
  locations : ∀ location, after.knowsLocation location = true ↔
    before.knowsLocation location = true ∨ ∃ item ∈ batch, item.guess.location = some location

theorem mergedFrom_imported (registry : Registry) (batch : List ImportedDevice) :
    (registry.imported batch).1.MergedFrom registry batch where
  absent id absent := by
    have none : batch.filter (·.id = id) = [] := by
      simpa [List.filter_eq_nil_iff] using absent
    rw [get?_imported, none]
    rfl
  present id present := by
    obtain ⟨item, listed, here⟩ := present
    rw [get?_imported]
    refine ImportedDevice.storedAll_mergedFrom ?_ _
    exact List.ne_nil_of_mem (List.mem_filter.mpr ⟨listed, decide_eq_true here⟩)
  types := types_imported registry batch
  locations _ := knowsLocation_imported

/-- What is published after an import is the registry from before with the batch merged into it. A
batch is a list in memory, which has fewer than `2 ^ 63` items. -/
theorem mergedFrom_of_import {σ : Type} [Storage σ] (reached : registry.Reachable)
    (fits : batch.length < 0x8000000000000000) {store left : σ} {report : ImportReport}
    {published : Registry}
    (success : applyEdit store registry (RegistryEdit.importDevices batch).run =
      .ok (report, published, left)) : published.MergedFrom registry batch := by
  rw [(reached.sound.published_eq fits success).1]
  exact mergedFrom_imported registry batch

section Delivery

def lanternId : DeviceId := ⟨"lantern", by decide +kernel⟩

/-- The hose is said to be at a pond and is not to be used, and a lantern comes twice: at first
nobody knows where it is. -/
def delivery : List ImportedDevice :=
  [{ id := hose.id, enabled := some false, raw := { area := some "Pond" }, valueRange := none },
    { id := lanternId, enabled := none, raw := { domain := some "light" }, valueRange := none },
    { id := lanternId, enabled := some true, raw := { area := some "Garden" }, valueRange := none }]

/-- The hose stays where it is, though the pond is declared, and the lantern is a light in the
garden. -/
theorem mergedFrom_of_import_delivery :
    ∃ registry report published left,
      Registry.restore 3 [(sprinkler, [.on, .off, .on])] [garden] [hose] = .ok registry ∧
      applyEdit ({} : Store.Memory) registry (RegistryEdit.importDevices delivery).run =
        .ok (report, published, left) ∧
      published.MergedFrom registry delivery ∧
      published.version = 7 ∧ published.locations.keys.map (·.text) = ["garden", "pond"] ∧
      (published.get? hose.id).map (fun device => (device.enabled, device.location)) =
        some (false, some garden) ∧
      (published.get? lanternId).map (fun device => (device.enabled, device.location)) =
        some (true, some garden) := by
  have parts :
      ((Registry.restore 3 [(sprinkler, [.on, .off, .on])] [garden] [hose]).toOption.bind
        fun registry => (applyEdit ({} : Store.Memory) registry
          (RegistryEdit.importDevices delivery).run).toOption.map fun done => decide
            (done.2.1.version = 7 ∧ done.2.1.locations.keys.map (·.text) = ["garden", "pond"] ∧
              (done.2.1.get? hose.id).map (fun device => (device.enabled, device.location)) =
                some (false, some garden) ∧
              (done.2.1.get? lanternId).map (fun device => (device.enabled, device.location)) =
                some (true, some garden))) = some true := by
    decide +kernel
  obtain ⟨registry, restored, parts⟩ := Option.bind_eq_some_iff.mp parts
  have restored := toOption_eq_some.mp restored
  obtain ⟨⟨report, published, left⟩, success, parts⟩ := exists_of_toOption_map parts
  have reached : registry.Reachable := ⟨registry, [], .restored restored, rfl⟩
  exact ⟨registry, report, published, left, restored, success,
    mergedFrom_of_import reached (by decide) success, of_decide_eq_true parts⟩

end Delivery

end Registry

end HomeVoice
