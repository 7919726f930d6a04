import HomeVoice.Proofs.Import.Merging

/-!
# What the report of an import tells

Every item of a batch has one entry in the report, made when its turn is over. New locations, new
devices and the version are those of the registry that is published. A device that still lacks its
type or its location when all is done is always among the unclassified ones, but one that got it from
a later item of the batch is still among them, and it is among the created and the updated ones at
once. Only of a batch that has no device twice are all entries as they are in the end.
-/

namespace HomeVoice

open Hub (RegistryEdit applyEdit)

/-- What lacks something in the end lacked it after the first item for it. -/
theorem Device.MergedFrom.lacks_first {device : Device} {known : Option Device}
    {first : ImportedDevice} {rest : List ImportedDevice}
    (merged : device.MergedFrom known (first :: rest)) (lacks : device.isClassified = false) :
    (first.device known).isClassified = false := by
  have kept {α : Type} (had : Option α) (given : ImportedDevice → Option α)
      (found : (had.or (given first)).isSome = true) :
      (had.or ((first :: rest).findSome? given)).isSome = true := by
    rw [Option.isSome_or, Bool.or_eq_true] at found ⊢
    exact found.imp_right fun here =>
      List.findSome?_isSome_iff.mpr ⟨first, List.mem_cons_self, here⟩
  rw [← Bool.not_eq_true] at lacks ⊢
  intro classified
  obtain ⟨type, place⟩ := Bool.and_eq_true_iff.mp classified
  refine lacks ?_
  unfold Device.isClassified
  rw [merged.deviceType, merged.location, Bool.and_eq_true]
  exact ⟨kept _ (·.guess.deviceType) type, kept _ (·.guess.location) place⟩

theorem ImportedDevice.isClassified_stored (item : ImportedDevice) (known : Option Device) :
    (item.stored known).isClassified = (item.device known).isClassified := by
  unfold Device.isClassified
  rw [stored_deviceType, stored_location]
  rfl

/-- A known device stays just as it is if it is the same as what the item makes of it. -/
theorem ImportedDevice.stored_eq_iff {item : ImportedDevice} {known : Device} :
    item.stored (some known) = known ↔ (known == item.device (some known)) = true := by
  constructor
  · intro kept
    have same := item.stored_essence (some known)
    rw [kept] at same
    exact Device.beq_iff.mpr same
  · intro same
    simp [stored, Option.filter, same]

namespace Registry

variable {registry : Registry} {batch : List ImportedDevice} {id : DeviceId}

/-- A device is known after a batch if it was before or is in the batch. -/
theorem isSome_get?_imported :
    ((registry.imported batch).1.get? id).isSome = true ↔
      (registry.get? id).isSome = true ∨ ∃ item ∈ batch, item.id = id := by
  have merged := mergedFrom_imported registry batch
  by_cases listed : ∃ item ∈ batch, item.id = id
  · obtain ⟨device, found, _⟩ := merged.present id listed
    simp [found, listed]
  · rw [merged.absent id fun item member here => listed ⟨item, member, here⟩]
    simp [listed]

section Entries

variable (entries : ImportReport → List DeviceId) (choose : Option Device → ImportedDevice → Bool)
  (none : entries {} = [])
  (added : ∀ registry report item, entries (noted registry report item) =
    entries report ++ if choose (registry.get? item.id) item then [item.id] else [])

include none added

/-- An identifier is in a list of the report if at the turn of some item with it there was something
to be entered. -/
theorem mem_entries_iff :
    id ∈ entries (registry.imported batch).2 ↔ ∃ before item,
      before ++ [item] <+: batch.filter (·.id = id) ∧
        choose (ImportedDevice.storedAll before (registry.get? id)) item = true := by
  induction batch using List.reverseRecOn with
  | nil => simp [imported_nil, none]
  | append_singleton batch item ih =>
    rw [imported_concat, added, List.mem_append, ih, List.filter_append]
    by_cases here : item.id = id
    · have taken : [item].filter (·.id = id) = [item] := by simp [here]
      have known : (registry.imported batch).1.get? item.id =
          ImportedDevice.storedAll (batch.filter (·.id = id)) (registry.get? id) := by
        rw [here, get?_imported]
      have last : id ∈ (if choose ((registry.imported batch).1.get? item.id) item then [item.id]
          else []) ↔ choose ((registry.imported batch).1.get? item.id) item = true := by
        cases choose ((registry.imported batch).1.get? item.id) item <;> simp [here]
      rw [taken, last, known]
      simp only [List.prefix_concat_iff, List.append_singleton_inj, or_and_right, exists_or,
        and_assoc, exists_eq_left, exists_and_left]
      exact or_comm
    · have passed : [item].filter (·.id = id) = [] := by simp [here]
      have silent : id ∉ if choose ((registry.imported batch).1.get? item.id) item then [item.id]
          else [] := by
        split <;> simp [Ne.symm here]
      rw [passed, List.append_nil]
      simp only [silent, or_false]

/-- Entries come in the order of the batch. -/
theorem entries_sublist : (entries (registry.imported batch).2).Sublist (batch.map (·.id)) := by
  induction batch using List.reverseRecOn with
  | nil => simp [imported_nil, none]
  | append_singleton batch item ih =>
    rw [imported_concat, added, List.map_append]
    refine ih.append ?_
    split <;> simp

end Entries

theorem mem_created_iff :
    id ∈ (registry.imported batch).2.created ↔
      (∃ item ∈ batch, item.id = id) ∧ registry.get? id = none := by
  rw [mem_entries_iff (·.created) (fun known _ => known.isNone) rfl fun _ _ _ => rfl]
  constructor
  · rintro ⟨before, item, early, new⟩
    obtain ⟨member, here⟩ := List.mem_filter.mp
      (early.subset (List.mem_append_right _ List.mem_cons_self))
    refine ⟨⟨item, member, of_decide_eq_true here⟩, ?_⟩
    by_cases given : before = []
    · subst given
      exact Option.isNone_iff_eq_none.mp new
    · obtain ⟨device, left, _⟩ := ImportedDevice.storedAll_mergedFrom given (registry.get? id)
      rw [left] at new
      cases new
  · rintro ⟨⟨item, member, here⟩, unknown⟩
    cases items : batch.filter (·.id = id) with
    | nil =>
      have apart := List.filter_eq_nil_iff.mp items item member
      exact absurd (decide_eq_true here) apart
    | cons first rest =>
      refine ⟨[], first, ⟨rest, rfl⟩, ?_⟩
      rw [unknown]
      rfl

theorem nodup_created (registry : Registry) (batch : List ImportedDevice) :
    (registry.imported batch).2.created.Nodup := by
  induction batch using List.reverseRecOn with
  | nil => exact List.nodup_nil
  | append_singleton batch item ih =>
    rw [imported_concat]
    show ((registry.imported batch).2.created ++ if _ then _ else _).Nodup
    split
    next new =>
      refine List.nodup_append.mpr ⟨ih, List.pairwise_singleton _ _, ?_⟩
      rintro other before _ last rfl
      have known : ((registry.imported batch).1.get? other).isSome = true :=
        isSome_get?_imported.mpr (.inr (mem_created_iff.mp before).1)
      rw [List.mem_singleton.mp last, Option.isNone_iff_eq_none.mp new] at known
      cases known
    · rwa [List.append_nil]

/-- Each item is counted once, as one that creates, that updates or that changes nothing. -/
theorem perm_imported (registry : Registry) (batch : List ImportedDevice) :
    ((registry.imported batch).2.created ++ (registry.imported batch).2.updated ++
      (registry.imported batch).2.unchanged).Perm (batch.map (·.id)) := by
  induction batch using List.reverseRecOn with
  | nil => exact .nil
  | append_singleton batch item ih =>
    rw [List.perm_iff_count] at ih ⊢
    intro id
    have before := ih id
    rw [imported_concat, List.map_append, List.map_singleton]
    simp only [noted, List.count_append] at before ⊢
    cases known : (registry.imported batch).1.get? item.id with
    | none =>
      simp only [Option.isNone_none, Option.any_none, if_true, Bool.false_eq_true, if_false,
        List.count_nil]
      omega
    | some device =>
      cases same : device == item.device (some device) <;>
        simp only [same, bne, Option.isNone_some, Option.any_some, Bool.not_false, Bool.not_true,
          if_true, Bool.false_eq_true, if_false, List.count_nil] <;>
        omega

private theorem noted_unclassified (registry : Registry) (report : ImportReport)
    (item : ImportedDevice) :
    (registry.noted report item).unclassified = report.unclassified ++
      if (!(item.device (registry.get? item.id)).isClassified) = true then [item.id] else [] := by
  show report.unclassified ++ (if (item.device (registry.get? item.id)).isClassified then [] else _) = _
  cases (item.device (registry.get? item.id)).isClassified <;> rfl

/-- The unclassified devices are those that the first item for them left so. -/
theorem mem_unclassified_iff :
    id ∈ (registry.imported batch).2.unclassified ↔ ∃ first,
      (batch.filter (·.id = id)).head? = some first ∧
        (first.device (registry.get? id)).isClassified = false := by
  rw [mem_entries_iff (·.unclassified) (fun known item => !(item.device known).isClassified) rfl
    noted_unclassified]
  cases items : batch.filter (·.id = id) with
  | nil => simp
  | cons first rest =>
    simp only [List.head?_cons, Option.some.injEq, exists_eq_left', Bool.not_eq_true']
    constructor
    · rintro ⟨before, item, early, lacks⟩
      cases before with
      | nil =>
        obtain ⟨rfl, _⟩ := List.cons_prefix_cons.mp early
        exact lacks
      | cons head others =>
        obtain ⟨rfl, _⟩ := List.cons_prefix_cons.mp early
        obtain ⟨device, left, merged⟩ := ImportedDevice.storedAll_mergedFrom
          (List.append_ne_nil_of_left_ne_nil (List.cons_ne_nil head others) [item])
          (registry.get? id)
        rw [ImportedDevice.storedAll_concat] at left
        cases left
        exact merged.lacks_first ((item.isClassified_stored _).trans lacks)
    · intro lacks
      exact ⟨[], first, ⟨rest, rfl⟩, lacks⟩

/-- A device that is not classified in the end was not classified by any item. -/
theorem mem_unclassified_of_lacks {device : Device} (listed : ∃ item ∈ batch, item.id = id)
    (found : (registry.imported batch).1.get? id = some device)
    (lacks : device.isClassified = false) : id ∈ (registry.imported batch).2.unclassified := by
  rw [mem_unclassified_iff]
  obtain ⟨_, again, merged⟩ := (mergedFrom_imported registry batch).present id listed
  cases found.symm.trans again
  obtain ⟨item, member, here⟩ := listed
  cases items : batch.filter (·.id = id) with
  | nil => exact absurd (decide_eq_true here) (List.filter_eq_nil_iff.mp items item member)
  | cons first rest =>
    rw [items] at merged
    exact ⟨first, rfl, merged.lacks_first lacks⟩

theorem mem_newLocations_iff {location : Location} :
    location ∈ (registry.imported batch).2.newLocations ↔
      (registry.imported batch).1.knowsLocation location = true ∧
        registry.knowsLocation location = false := by
  induction batch using List.reverseRecOn with
  | nil => simp [imported_nil]
  | append_singleton batch item ih =>
    have kept : registry.knowsLocation location = true →
        (registry.imported batch).1.knowsLocation location = true :=
      fun known => knowsLocation_imported.mpr (.inl known)
    rw [imported_concat, knowsLocation_received]
    show location ∈ _ ++ _ ↔ _
    rw [List.mem_append, ih, Option.mem_toList, Option.filter_eq_some_iff, Bool.not_eq_true']
    cases before : registry.knowsLocation location with
    | true => simp [kept before]
    | false => cases (registry.imported batch).1.knowsLocation location <;> simp

theorem nodup_newLocations (registry : Registry) (batch : List ImportedDevice) :
    (registry.imported batch).2.newLocations.Nodup := by
  induction batch using List.reverseRecOn with
  | nil => exact List.nodup_nil
  | append_singleton batch item ih =>
    rw [imported_concat]
    show (_ ++ (item.guess.location.filter _).toList).Nodup
    cases new : item.guess.location.filter
        fun location => !(registry.imported batch).1.knowsLocation location with
    | none => simpa using ih
    | some location =>
      refine List.nodup_append.mpr ⟨ih, List.pairwise_singleton _ _, ?_⟩
      rintro other before _ last rfl
      have unknown := (Option.filter_eq_some_iff.mp new).2
      rw [← List.mem_singleton.mp last, (mem_newLocations_iff.mp before).1] at unknown
      cases unknown

/-- In a batch that has no device twice, an item is the only one for its device. -/
theorem filter_id_of_nodup {item : ImportedDevice} (once : (batch.map (·.id)).Nodup)
    (listed : item ∈ batch) : batch.filter (·.id = item.id) = [item] := by
  induction batch with
  | nil => cases listed
  | cons head rest ih =>
    rw [List.map_cons, List.nodup_cons] at once
    rcases List.mem_cons.mp listed with rfl | later
    · have others : rest.filter (·.id = item.id) = [] := by
        rw [List.filter_eq_nil_iff]
        intro other member same
        exact once.1 (List.mem_map.mpr ⟨other, member, of_decide_eq_true same⟩)
      rw [List.filter_cons_of_pos (by simp), others]
    · have apart : head.id ≠ item.id := fun same =>
        once.1 (List.mem_map.mpr ⟨item, later, same.symm⟩)
      rw [List.filter_cons_of_neg (by simpa using apart), ih once.2 later]

section Once

variable {item : ImportedDevice}

/-- The only item for a device makes of it what is there in the end. -/
theorem get?_imported_of_nodup (once : (batch.map (·.id)).Nodup) (listed : item ∈ batch) :
    (registry.imported batch).1.get? item.id = some (item.stored (registry.get? item.id)) := by
  rw [get?_imported, filter_id_of_nodup once listed]
  rfl

theorem mem_updated_iff_of_nodup (once : (batch.map (·.id)).Nodup) (listed : item ∈ batch) :
    item.id ∈ (registry.imported batch).2.updated ↔ ∃ known,
      registry.get? item.id = some known ∧
        (registry.imported batch).1.get? item.id ≠ some known := by
  rw [mem_entries_iff (·.updated) (fun known item => known.any (· != item.device known)) rfl
      fun _ _ _ => rfl,
    filter_id_of_nodup once listed, get?_imported_of_nodup once listed]
  have only {before : List ImportedDevice} {other : ImportedDevice} :
      before ++ [other] <+: [item] ↔ before = [] ∧ other = item := by
    rw [← List.nil_append [item], List.prefix_concat_iff]
    simp [List.append_eq_singleton_iff]
  simp only [only, and_assoc, exists_and_left, exists_eq_left]
  show (registry.get? item.id).any (· != item.device (registry.get? item.id)) = true ↔ _
  cases known : registry.get? item.id with
  | none => simp
  | some device =>
    rw [Option.any_some, bne, Bool.not_eq_true', ← Bool.not_eq_true,
      ← ImportedDevice.stored_eq_iff]
    simp

theorem mem_unclassified_iff_of_nodup (once : (batch.map (·.id)).Nodup) (listed : item ∈ batch) :
    item.id ∈ (registry.imported batch).2.unclassified ↔ ∃ device,
      (registry.imported batch).1.get? item.id = some device ∧ device.isClassified = false := by
  rw [mem_unclassified_iff, filter_id_of_nodup once listed, get?_imported_of_nodup once listed]
  simp [ImportedDevice.isClassified_stored]

end Once

end Registry

/-- Every entry is as the device is in the end. -/
structure ImportReport.Exact (report : ImportReport) (before after : Registry)
    (batch : List ImportedDevice) : Prop where
  apart : (report.created ++ report.updated ++ report.unchanged).Nodup
  updated : ∀ item ∈ batch, item.id ∈ report.updated ↔
    ∃ known, before.get? item.id = some known ∧ after.get? item.id ≠ some known
  unclassified : report.unclassified.Nodup ∧ ∀ item ∈ batch, item.id ∈ report.unclassified ↔
    ∃ device, after.get? item.id = some device ∧ device.isClassified = false

/-- What the report on a batch tells of the registries before and after it. -/
structure ImportReport.Tells (report : ImportReport) (before after : Registry)
    (batch : List ImportedDevice) : Prop where
  version : report.registryVersion = after.version
  newLocations : report.newLocations.Nodup ∧ ∀ location, location ∈ report.newLocations ↔
    after.knowsLocation location = true ∧ before.knowsLocation location = false
  created : report.created.Nodup ∧ ∀ id, id ∈ report.created ↔
    (∃ item ∈ batch, item.id = id) ∧ before.get? id = none
  /-- One entry for each item, however often its device comes. -/
  entries : (report.created ++ report.updated ++ report.unchanged).Perm (batch.map (·.id))
  /-- The first item for a device decides, also where a later one finds what it lacks. -/
  unclassified : ∀ id, id ∈ report.unclassified ↔ ∃ first,
    (batch.filter (·.id = id)).head? = some first ∧
      (first.device (before.get? id)).isClassified = false
  lacking : ∀ item ∈ batch, ∀ device, after.get? item.id = some device →
    device.isClassified = false → item.id ∈ report.unclassified
  exact : (batch.map (·.id)).Nodup → report.Exact before after batch

namespace Registry

variable {registry : Registry} {batch : List ImportedDevice}

theorem exact_imported (once : (batch.map (·.id)).Nodup) :
    (registry.imported batch).2.Exact registry (registry.imported batch).1 batch where
  apart := (perm_imported registry batch).nodup_iff.mpr once
  updated _ listed := mem_updated_iff_of_nodup once listed
  unclassified :=
    ⟨(entries_sublist (·.unclassified) (fun known item => !(item.device known).isClassified) rfl
        noted_unclassified).nodup once,
      fun _ listed => mem_unclassified_iff_of_nodup once listed⟩

theorem tells_imported (registry : Registry) (batch : List ImportedDevice) :
    { (registry.imported batch).2 with
      registryVersion := (registry.imported batch).1.version : ImportReport }.Tells
        registry (registry.imported batch).1 batch where
  version := rfl
  newLocations := ⟨nodup_newLocations registry batch, fun _ => mem_newLocations_iff⟩
  created := ⟨nodup_created registry batch, fun _ => mem_created_iff⟩
  entries := perm_imported registry batch
  unclassified _ := mem_unclassified_iff
  lacking item listed _ found lacks := mem_unclassified_of_lacks ⟨item, listed, rfl⟩ found lacks
  exact once := { exact_imported once with }

/-- The report that an import answers tells of the registry that is published. A batch is a list in
memory, which has fewer than `2 ^ 63` items. -/
theorem tells_of_import {σ : Type} [Storage σ] (reached : registry.Reachable)
    (fits : batch.length < 0x8000000000000000) {store left : σ} {report : ImportReport}
    {published : Registry}
    (success : applyEdit store registry (RegistryEdit.importDevices batch).run =
      .ok (report, published, left)) : report.Tells registry published batch := by
  obtain ⟨rfl, rfl⟩ := reached.sound.published_eq fits success
  exact tells_imported registry batch

section Shelf

def shelfId : DeviceId := ⟨"shelf", by decide +kernel⟩

/-- The hose is said to be at a pond, a lantern is new and nobody knows where it is, and a shelf is
nothing that is known. -/
def shelves : List ImportedDevice :=
  [{ id := hose.id, enabled := none, raw := { area := some "Pond" }, valueRange := none },
    { id := lanternId, enabled := none, raw := { domain := some "light" }, valueRange := none },
    { id := shelfId, enabled := none, raw := { area := some "Pond" }, valueRange := none }]

/-- No device comes twice, so all entries are as the devices are in the end. -/
theorem tells_of_import_shelves :
    ∃ registry report published left,
      Registry.restore 3 [(sprinkler, [.on, .off, .on])] [garden] [hose] = .ok registry ∧
      applyEdit ({} : Store.Memory) registry (RegistryEdit.importDevices shelves).run =
        .ok (report, published, left) ∧
      report.Tells registry published shelves ∧ report.Exact registry published shelves ∧
      report.created = [lanternId, shelfId] ∧ report.updated = [hose.id] ∧ report.unchanged = [] ∧
      report.unclassified = [lanternId, shelfId] ∧
      report.newLocations.map (·.text) = ["pond"] := by
  have parts :
      ((Registry.restore 3 [(sprinkler, [.on, .off, .on])] [garden] [hose]).toOption.bind
        fun registry => (applyEdit ({} : Store.Memory) registry
          (RegistryEdit.importDevices shelves).run).toOption.map fun done => decide
            (done.1.created = [lanternId, shelfId] ∧ done.1.updated = [hose.id] ∧
              done.1.unchanged = [] ∧ done.1.unclassified = [lanternId, shelfId] ∧
              done.1.newLocations.map (·.text) = ["pond"])) = some true := by
    decide +kernel
  obtain ⟨registry, restored, parts⟩ := Option.bind_eq_some_iff.mp parts
  have restored := toOption_eq_some.mp restored
  obtain ⟨⟨report, published, left⟩, success, parts⟩ := exists_of_toOption_map parts
  have reached : registry.Reachable := ⟨registry, [], .restored restored, rfl⟩
  have tells := tells_of_import reached (by decide) success
  exact ⟨registry, report, published, left, restored, success, tells, tells.exact (by decide),
    of_decide_eq_true parts⟩

end Shelf

section Twice

/-- A lantern comes twice, and only the second time it is said where it is. -/
def lanternTwice : List ImportedDevice :=
  [{ id := lanternId, enabled := none, raw := { domain := some "light" }, valueRange := none },
    { id := lanternId, enabled := none, raw := { domain := some "light", area := some "Garden" },
      valueRange := none }]

/-- The lantern is said to be created and updated, and to lack something that it has. -/
theorem exists_report_ne_published :
    ∃ report published left device,
      applyEdit ({} : Store.Memory) empty (RegistryEdit.importDevices lanternTwice).run =
        .ok (report, published, left) ∧
      report.created = [lanternId] ∧ report.updated = [lanternId] ∧
      report.unclassified = [lanternId] ∧
      published.get? lanternId = some device ∧ device.isClassified = true := by
  have parts :
      ((applyEdit ({} : Store.Memory) empty
        (RegistryEdit.importDevices lanternTwice).run).toOption.map fun done => decide
          (done.1.created = [lanternId] ∧ done.1.updated = [lanternId] ∧
            done.1.unclassified = [lanternId] ∧
            (done.2.1.get? lanternId).map (·.isClassified) = some true)) = some true := by
    decide +kernel
  obtain ⟨⟨report, published, left⟩, success, parts⟩ := exists_of_toOption_map parts
  obtain ⟨created, updated, unclassified, there⟩ := of_decide_eq_true parts
  obtain ⟨device, found, classified⟩ := Option.map_eq_some_iff.mp there
  exact ⟨report, published, left, device, success, created, updated, unclassified, found,
    classified⟩

end Twice

end Registry

end HomeVoice
