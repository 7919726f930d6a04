import HomeVoice.Hub.Basic
import HomeVoice.Proofs.Import.Commit
import HomeVoice.Proofs.Import.Report
import HomeVoice.Proofs.Service.Serial

/-!
# A batch that is imported again

What an item leaves of a device is what it makes of that device once more: a type or a location that
is there is kept, and everything else says the item again. So in a batch that has no device twice
each item finds its device and its location as it left them, though others came in between, and the
whole batch changes nothing.
-/

namespace HomeVoice

open Hub (RegistryEdit applyEdit)

namespace ImportedDevice

variable (item : ImportedDevice) (known : Option Device)

theorem stored_id : (item.stored known).id = item.id := congrArg (·.1.id) (item.stored_essence known)

/-- The merge of an item into a device has the merged device as its fixed point. -/
theorem stored_beq_device :
    (item.stored known == item.device (some (item.stored known))) = true := by
  have enabled : item.enabled.getD (item.stored known).enabled = (item.stored known).enabled := by
    rw [stored_enabled]
    cases item.enabled <;> rfl
  have deviceType : (item.stored known).deviceType.or item.guess.deviceType =
      (item.stored known).deviceType := by
    rw [stored_deviceType, Option.or_assoc, Option.or_self]
  have location : (item.stored known).location.or item.guess.location =
      (item.stored known).location := by
    rw [stored_location, Option.or_assoc, Option.or_self]
  have range : (item.valueRange.or (item.stored known).valueRange).map ValueRange.essence =
      (item.stored known).valueRange.map ValueRange.essence := by
    cases own : item.valueRange with
    | none => rfl
    | some range => rw [stored_range, own]; rfl
  rw [Device.beq_iff]
  refine Prod.ext ?_ range.symm
  show { item.stored known with valueRange := none } = ({
    id := item.id
    enabled := item.enabled.getD (item.stored known).enabled
    deviceType := (item.stored known).deviceType.or item.guess.deviceType
    location := (item.stored known).location.or item.guess.location
    raw := item.raw
    valueRange := none } : Device)
  rw [enabled, deviceType, location, ← item.stored_id known, ← item.stored_raw known]

end ImportedDevice

namespace Registry

variable {registry : Registry} {item : ImportedDevice} {batch : List ImportedDevice}

/-- The registry has all that the item tells: its device as the item would make it, and the location
that is found for it. -/
structure Holds (registry : Registry) (item : ImportedDevice) : Prop where
  device : ∃ known, registry.get? item.id = some known ∧
    (known == item.device (some known)) = true
  location : ∀ location, item.guess.location = some location →
    registry.knowsLocation location = true

theorem Holds.located (holds : registry.Holds item) : registry.located item = registry := by
  unfold Registry.located
  split
  next location found =>
    unfold addLocation
    rw [if_pos (holds.location location found)]
  · rfl

theorem Holds.received (holds : registry.Holds item) : registry.received item = registry := by
  obtain ⟨known, there, same⟩ := holds.device
  unfold Registry.received
  dsimp only
  rw [there, if_pos (show (some known == some (item.device (some known))) = true from same),
    holds.located]

/-- The item is noted as one that changes nothing, and its device as one that lacks something if it
does. -/
theorem Holds.noted (holds : registry.Holds item) (report : ImportReport) :
    registry.noted report item = { report with
      unchanged := report.unchanged ++ [item.id]
      unclassified := report.unclassified ++
        if (registry.get? item.id).any (·.isClassified) then [] else [item.id] } := by
  obtain ⟨known, there, same⟩ := holds.device
  have stays : item.stored (some known) = known := ImportedDevice.stored_eq_iff.mpr same
  have classified : (item.device (some known)).isClassified = known.isClassified := by
    rw [← item.isClassified_stored, stays]
  have nowhere : item.guess.location.filter (!registry.knowsLocation ·) = none := by
    rw [Option.filter_eq_none_iff]
    intro location found
    simp [holds.location location found]
  unfold Registry.noted
  dsimp only
  rw [nowhere, there]
  simp [same, classified, bne]

/-- The report on a batch of which the registry has all already. -/
def acknowledged (registry : Registry) (batch : List ImportedDevice) : ImportReport :=
  { unchanged := batch.map (·.id)
    unclassified := (batch.map (·.id)).filter fun id =>
      !(registry.get? id).any (·.isClassified)
    registryVersion := registry.version }

/-- Item by item the registry stays as it is, so each one finds all that it tells. -/
theorem imported_of_holds (holds : ∀ item ∈ batch, registry.Holds item) :
    registry.imported batch =
      (registry, { registry.acknowledged batch with registryVersion := 0 }) := by
  induction batch using List.reverseRecOn with
  | nil => rfl
  | append_singleton batch item ih =>
    obtain ⟨before, last⟩ := List.forall_mem_append.mp holds
    have last := List.forall_mem_singleton.mp last
    rw [imported_concat, ih before, last.received, last.noted]
    unfold acknowledged
    cases lacking : (registry.get? item.id).any (·.isClassified) <;> simp [lacking]

/-- In a batch that has no device twice no item undoes what another one has done. -/
theorem holds_imported (once : (batch.map (·.id)).Nodup) (listed : item ∈ batch) :
    (registry.imported batch).1.Holds item where
  device := ⟨_, get?_imported_of_nodup once listed, item.stored_beq_device _⟩
  location _ found := knowsLocation_imported.mpr (.inr ⟨item, listed, found⟩)

theorem Sound.run_importDevices_of_holds (sound : registry.Sound)
    (holds : ∀ item ∈ batch, registry.Holds item) :
    (RegistryEdit.importDevices batch).run registry =
      .ok (registry.acknowledged batch, registry) := by
  rw [sound.run_importDevices, imported_of_holds holds]
  rfl

end Registry

namespace ImportReport

/-- A report that tells of a batch in a registry that had all of it. -/
structure TellsNothingNew (report : ImportReport) (registry : Registry)
    (batch : List ImportedDevice) : Prop where
  unchanged : report.unchanged = batch.map (·.id)
  created : report.created = []
  updated : report.updated = []
  newLocations : report.newLocations = []
  version : report.registryVersion = registry.version
  /-- What lacks something still does. -/
  unclassified : ∀ id, id ∈ report.unclassified ↔ ∃ item ∈ batch, item.id = id ∧
    (registry.get? id).any (·.isClassified) = false

theorem tellsNothingNew_acknowledged (registry : Registry) (batch : List ImportedDevice) :
    (registry.acknowledged batch).TellsNothingNew registry batch where
  unchanged := rfl
  created := rfl
  updated := rfl
  newLocations := rfl
  version := rfl
  unclassified id := by
    simp only [Registry.acknowledged, List.mem_filter, List.mem_map, Bool.not_eq_true',
      ← exists_and_right, and_assoc]

end ImportReport

namespace Service

variable {σ : Type} [Storage σ] {registry : Registry} {batch : List ImportedDevice} {n : Nat}
  {found board : Board σ} {deeds : List Deed} {stage : Stage (.importDevices batch)}

/-- An import that changes nothing: what it has done since it found this, what is shared now, and its
stage. -/
structure Rests (batch : List ImportedDevice) (again : ImportReport) (found : Board σ)
    (deeds : List Deed) (board : Board σ) (stage : Stage (.importDevices batch)) : Prop where
  /-- The store is not asked, and nothing is published. -/
  silent : (.commit ∉ deeds ∧ ∀ cause, .refuse cause ∉ deeds) ∧ .publish ∉ deeds
  same : stage.isCritical = true → board = found
  result : ∀ result, stage.result? = some result → result = .ok again

theorem Course.rests (course : Course n found deeds board stage) (sound : found.latest.Sound)
    (holds : ∀ item ∈ batch, found.latest.Holds item) :
    Rests batch (found.latest.acknowledged batch) found ([.acquire] ++ deeds) board stage := by
  have ran := sound.run_importDevices_of_holds holds
  have silent : (.commit ∉ deeds ∧ ∀ cause, .refuse cause ∉ deeds) ∧ .publish ∉ deeds := by
    refine course.not_mem fun answer next done => ?_
    cases ran.symm.trans done
    rfl
  refine ⟨by simpa using silent, course.eq_of_not_mem silent.1.1, ?_⟩
  rintro (error | answer) told
  · rcases (course.of_error told).1 with failed | ⟨cause, _, refused⟩
    · cases ran.symm.trans failed
    · exact absurd refused (silent.1.2 cause)
  · obtain ⟨next, done⟩ := course.of_ok told
    cases ran.symm.trans done
    rfl

/-- What an import has left, the same batch leaves as it is, if it has no device twice: for any store,
for any hub, and in any run in which it gets the lock while this registry is published. A batch is a
list in memory, which has fewer than `2 ^ 63` items. -/
theorem reimport_rests (reached : registry.Reachable) (once : (batch.map (·.id)).Nodup)
    (fits : batch.length < 0x8000000000000000) {store left : σ} {report : ImportReport}
    {published : Registry}
    (success : applyEdit store registry (RegistryEdit.importDevices batch).run =
      .ok (report, published, left)) :
    ∃ again : ImportReport, again.TellsNothingNew published batch ∧
      ∀ (τ : Type) [Storage τ],
        (∀ store : τ, applyEdit store published (RegistryEdit.importDevices batch).run =
          .ok (again, published, store)) ∧
        (∀ hub : Hub τ, hub.registry = published → hub.importDevices batch = (.ok again, hub)) ∧
        ∀ (store : τ) (start : Registry) (events : List Event) (service : Service τ) (n : Nat)
          (earlier later : List Event) (before : Service τ),
          Begun store start events service n (.importDevices batch) earlier later before →
          before.latest = published →
          ∃ stage, service.callers[n]? = some ⟨.importDevices batch, stage⟩ ∧
            Rests batch again before.toBoard (deedsOf n events) service.toBoard stage := by
  obtain ⟨rfl, -⟩ := reached.sound.published_eq fits success
  have sound := reached.sound.imported batch
  have holds : ∀ item ∈ batch, (registry.imported batch).1.Holds item :=
    fun item listed => Registry.holds_imported once listed
  have same (τ : Type) [Storage τ] (store : τ) :
      applyEdit store (registry.imported batch).1 (RegistryEdit.importDevices batch).run =
        .ok ((registry.imported batch).1.acknowledged batch, (registry.imported batch).1, store) :=
    Hub.applyEdit_of_same (sound.run_importDevices_of_holds holds) rfl
  refine ⟨_, ImportReport.tellsNothingNew_acknowledged _ batch, ?_⟩
  intro τ _
  refine ⟨same τ, ?_, ?_⟩
  · rintro hub here
    unfold Hub.importDevices Hub.edit
    rw [here, same τ]
    exact if_pos rfl
  · intro store start events service n earlier later before begun latest
    obtain ⟨stage, there, course⟩ := begun.run.course begun.reached.exclusive begun.locked
    refine ⟨stage, there, ?_⟩
    rw [begun.split, deedsOf_append, begun.deeds, ← latest]
    rw [← latest] at sound holds
    exact course.rests sound holds

section Shelf

open Registry (garden hose lanternId shelfId shelves sprinkler)

/-- The shelves are imported with changes, and when they are imported again they are there. -/
theorem reimport_rests_shelves :
    ∃ registry report published left again,
      Registry.restore 3 [(sprinkler, [.on, .off, .on])] [garden] [hose] = .ok registry ∧
      applyEdit ({} : Store.Memory) registry (RegistryEdit.importDevices shelves).run =
        .ok (report, published, left) ∧
      report.created = [lanternId, shelfId] ∧ published.version = 7 ∧
      applyEdit left published (RegistryEdit.importDevices shelves).run =
        .ok (again, published, left) ∧
      again.TellsNothingNew published shelves ∧
      again.unchanged = [hose.id, lanternId, shelfId] := by
  have parts :
      ((Registry.restore 3 [(sprinkler, [.on, .off, .on])] [garden] [hose]).toOption.bind
        fun registry => (applyEdit ({} : Store.Memory) registry
          (RegistryEdit.importDevices shelves).run).toOption.map fun done => decide
            (done.1.created = [lanternId, shelfId] ∧ done.2.1.version = 7)) = some true := by
    decide +kernel
  obtain ⟨registry, restored, parts⟩ := Option.bind_eq_some_iff.mp parts
  have restored := toOption_eq_some.mp restored
  obtain ⟨⟨report, published, left⟩, success, parts⟩ := exists_of_toOption_map parts
  obtain ⟨created, version⟩ := of_decide_eq_true parts
  have reached : registry.Reachable := ⟨registry, [], .restored restored, rfl⟩
  have once : (shelves.map (·.id)).Nodup := by decide
  obtain ⟨again, nothing, rests⟩ := reimport_rests reached once (by decide) success
  exact ⟨registry, report, published, left, again, restored, success, created, version,
    (rests Store.Memory).1 left, nothing, nothing.unchanged⟩

end Shelf

end Service

end HomeVoice
