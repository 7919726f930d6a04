import HomeVoice.Proofs.Grammar.Sameness
import HomeVoice.Proofs.System.Durability

/-!
# A warm start is as good as a cold one

The cache trusts a version to stand for the content of a registry. It may: versions only grow, a
version that was never committed is never published, and a start goes on at the version that was
committed last. So a grammar that is published, generated or taken from the cache, is the one that
the registry of its version gives with the options of the running worker.
-/

namespace HomeVoice

open Hub (Process)
open Store (Database Tables)

theorem Hub.Process.Step.storing {process after : Process} {event : Hub.Event}
    {snapshot : Registry} {artifact : Artifact} {request : Option Nat}
    (step : process.Step event after) (storing : after.phase = .storing snapshot artifact request) :
    process.phase = .storing snapshot artifact request ∨
      ∃ time, event = .generate time ∧ artifact.generatedAt = time := by
  cases step with
  | publish | request | refuse | wait => exact .inl storing
  | generate generating made =>
    cases storing
    exact .inr ⟨_, rfl, Registry.generate_generatedAt made⟩
  | _ => cases storing

/-- The registries that were published, the last one first: each version stands for one content,
and the last version is the greatest. -/
structure Chronicle (published : List Registry) (latest : Registry) : Prop where
  same : ∀ first ∈ published, ∀ second ∈ published, first.version = second.version →
    first.Same second
  newest : ∀ registry ∈ published, registry.version ≤ latest.version

namespace Chronicle

variable {published : List Registry} {latest next : Registry}

theorem first (registry : Registry) : Chronicle [registry] registry where
  same first known second other _ := by
    rw [List.mem_singleton.mp known, List.mem_singleton.mp other]
    exact .refl _
  newest other known := by
    rw [List.mem_singleton.mp known]
    exact UInt64.le_refl _

/-- A registry of a new version is published. -/
theorem advance (chronicle : Chronicle published latest) (above : latest.version < next.version) :
    Chronicle (next :: published) next where
  same first known second other version := by
    have apart : ∀ registry ∈ published, registry.version ≠ next.version := by
      intro registry member equal
      have below := UInt64.lt_of_le_of_lt (chronicle.newest registry member) above
      exact UInt64.lt_irrefl _ (equal ▸ below)
    rcases List.mem_cons.mp known with rfl | old
    · rcases List.mem_cons.mp other with rfl | elder
      · exact .refl _
      · exact absurd version.symm (apart second elder)
    · rcases List.mem_cons.mp other with rfl | elder
      · exact absurd version (apart first old)
      · exact chronicle.same first old second elder version
  newest := by
    refine List.forall_mem_cons.mpr ⟨UInt64.le_refl _, ?_⟩
    intro registry member
    exact UInt64.le_of_lt (UInt64.lt_of_le_of_lt (chronicle.newest registry member) above)

/-- The last registry is published again as it was stored. -/
theorem again (chronicle : Chronicle published latest) (known : latest ∈ published)
    (same : next.Same latest) : Chronicle (next :: published) next where
  same := by
    have like : ∀ registry ∈ published, next.version = registry.version → next.Same registry := by
      intro registry member version
      exact same.trans (chronicle.same latest known registry member (same.version.symm.trans version))
    intro first known second other version
    rcases List.mem_cons.mp known with rfl | old
    · rcases List.mem_cons.mp other with rfl | elder
      · exact .refl _
      · exact like second elder version
    · rcases List.mem_cons.mp other with rfl | elder
      · exact (like first old version.symm).symm
      · exact chronicle.same first old second elder version
  newest := by
    rw [same.version]
    exact List.forall_mem_cons.mpr ⟨by rw [same.version]; exact UInt64.le_refl _, chronicle.newest⟩

end Chronicle

/-- Elementary changes raise the version, as long as it does not run over. -/
theorem Registry.Changes.version_lt {Allowed : ValueRange → Prop} {count : Nat}
    {before after : Registry} (changes : Registry.Changes Allowed count before after)
    (few : count < 0x8000000000000000) (small : before.version.toNat < 0x8000000000000000)
    (changed : after.version ≠ before.version) : before.version < after.version := by
  have sum := congrArg UInt64.toNat changes.version
  rw [UInt64.toNat_add, UInt64.toNat_ofNat'] at sum
  have apart : after.version.toNat ≠ before.version.toNat :=
    fun same => changed (UInt64.toNat_inj.mp same)
  rw [UInt64.lt_iff_toNat_lt]
  omega

/-- A batch is a list in memory, where its items take two bytes each at least. -/
def Hub.RegistryEdit.FitsMemory : Hub.RegistryEdit → Prop
  | importDevices batch => batch.length < 0x4000000000000000
  | _ => True

theorem Hub.RegistryEdit.FitsMemory.size_lt {edit : Hub.RegistryEdit} (fits : edit.FitsMemory) :
    edit.size < 0x8000000000000000 := by
  cases edit with
  | importDevices batch =>
    have few : batch.length < 0x4000000000000000 := fits
    show 2 * batch.length < 0x8000000000000000
    omega
  | _ => exact (by decide : 1 < 0x8000000000000000)

namespace System

variable {system after : System Database} {event : Event Database}

/-- Bounds of ranges and times of generations survive being written and read, batches fit into
memory, and nobody else writes to the tables, which may be out of reach at any time. -/
def KeepsDocuments (system : System Database) : Event Database → Prop
  | .edit edit => edit.RangesIn ValueRange.Survives ∧ edit.FitsMemory
  | .work (.generate time) => time.Survives
  | .disturb store => store.tables = system.store.tables
  | _ => True

theorem KeepsDocuments.keepsTables (kept : KeepsDocuments system event) :
    KeepsTables system event := by
  cases event with
  | edit edit => exact kept.1
  | disturb store => exact kept
  | _ => trivial

/-- The tables hold the registry that was published last and grammars of the history, and every
version in the history stands for one content. -/
structure Continuous (system : System Database) : Prop where
  traceable : system.Traceable
  stores : ∃ stored, system.Stores stored
  caches : system.store.tables.CachesFrom system.cached
  storing : ∀ snapshot artifact request,
    system.process.phase = .storing snapshot artifact request → artifact.generatedAt.Survives
  ranges : ∀ registry ∈ system.published, registry.RangesIn ValueRange.Survives
  chronicle : Chronicle system.published system.registry
  small : system.registry.version.toNat < 0x8000000000000000

theorem continuous_first (options : GrammarOptions) (debounce now : Nat) :
    (first ({} : Database) options debounce now).Continuous where
  traceable := traceable_first _ options debounce now
  stores := ⟨_, stores_first options debounce now⟩
  caches := Tables.cachesFrom_empty
  storing := nofun
  ranges registry known := by
    rw [List.mem_singleton.mp known]
    exact (stores_first options debounce now).ranges
  chronicle := .first _
  small := by
    show (0 : UInt64).toNat < 0x8000000000000000
    decide

/-- A start finds the registry that was published last, and the cache gives out only what workers
of this system stored in it. -/
theorem Continuous.keepsHistory (continuous : system.Continuous) (step : Step system event after) :
    KeepsHistory system event := by
  obtain ⟨stored, stores⟩ := continuous.stores
  cases step with
  | restart options debounce found =>
    intro loaded same
    exact Registry.beq_iff_same.mpr (stores.same_of_load (Database.loadRegistry_eq_ok same))
  | @consult version answer time process answered step =>
    cases answer with
    | error _ => trivial
    | ok found =>
      cases found with
      | none => trivial
      | some artifact =>
        exact (continuous.caches.loadArtifact (Database.loadArtifact_eq_ok answered)).1
  | @work event process alone step => cases event <;> trivial
  | _ => trivial

/-- The grammar that is being cached survives being written and read. -/
theorem Continuous.survives (continuous : system.Continuous) {snapshot : Registry}
    {artifact : Artifact} {request : Option Nat}
    (storing : system.process.phase = .storing snapshot artifact request) :
    artifact.Survives where
  ranges id range found := by
    obtain ⟨⟨registry, known, _, made⟩, _⟩ :=
      continuous.traceable.process.storing snapshot artifact request storing
    exact Registry.valueRanges_rangesIn made (continuous.ranges registry known) found
  generatedAt := continuous.storing snapshot artifact request storing

/-- The worker takes a step that leaves the registry and the rows of the cache alone. -/
theorem Continuous.work (continuous : system.Continuous) {event : Hub.Event} {process : Process}
    {store : Database} {cached : List Artifact}
    (step : system.process.Step event process) (inside : event.registry? = none)
    (survives : ∀ time, event = .generate time → time.Survives)
    (traceable : { system with process, store, cached }.Traceable)
    (stores : ∃ stored, { system with process, store, cached }.Stores stored)
    (caches : store.tables.CachesFrom cached) :
    { system with process, store, cached }.Continuous := by
  have latest : process.latest = system.process.latest := by
    rw [step.latest, inside]
    rfl
  constructor
  case traceable => exact traceable
  case stores => exact stores
  case caches => exact caches
  case storing =>
    intro snapshot artifact request storing
    rcases step.storing storing with before | ⟨time, generating, made⟩
    · exact continuous.storing snapshot artifact request before
    · exact made ▸ survives time generating
  case ranges => exact continuous.ranges
  case chronicle =>
    show Chronicle system.published process.latest
    rw [latest]
    exact continuous.chronicle
  case small =>
    show process.latest.version.toNat < _
    rw [latest]
    exact continuous.small

/-- An edit is committed, and its version is above all earlier ones. -/
theorem Continuous.commit (continuous : system.Continuous) {next stored : Registry} {count : Nat}
    {store : Database} (before : system.Stores stored)
    (changes : Registry.Changes ValueRange.Survives count system.registry next)
    (few : count < 0x8000000000000000) (changed : next.version ≠ system.registry.version)
    (committed : Storage.commit system.store (.between system.registry next) = .ok store)
    (traceable : (system.commit next store).Traceable) : (system.commit next store).Continuous := by
  have written := Database.commit_eq_ok committed
  obtain ⟨small, _, artifacts⟩ := Tables.commit_eq_ok written
  have above := changes.version_lt few continuous.small changed
  constructor
  case traceable => exact traceable
  case stores => exact ⟨_, before.commit changes written⟩
  case caches =>
    unfold Tables.CachesFrom
    rw [System.commit, artifacts]
    exact continuous.caches
  case storing => exact continuous.storing
  case ranges =>
    exact List.forall_mem_cons.mpr ⟨changes.rangesIn before.ranges, continuous.ranges⟩
  case chronicle => exact continuous.chronicle.advance above
  case small => exact small

/-- A start publishes the stored registry once more. -/
theorem Continuous.boot (continuous : system.Continuous) {loaded : Option Registry} {stored : Registry}
    {options : GrammarOptions} {debounce : Nat}
    (same : (loaded.getD .empty).Same system.registry)
    (traceable : (system.boot options debounce loaded).Traceable)
    (stores : (system.boot options debounce loaded).Stores stored) :
    (system.boot options debounce loaded).Continuous where
  traceable
  stores := ⟨stored, stores⟩
  caches := continuous.caches
  storing := nofun
  ranges := List.forall_mem_cons.mpr ⟨stores.ranges, continuous.ranges⟩
  chronicle := continuous.chronicle.again continuous.traceable.process.latest same
  small := by
    show (loaded.getD .empty).version.toNat < _
    rw [same.version]
    exact continuous.small

theorem Continuous.step (continuous : system.Continuous) (step : Step system event after)
    (kept : KeepsDocuments system event) : after.Continuous := by
  have traceable := continuous.traceable.step step (continuous.keepsHistory step)
  obtain ⟨stored, before⟩ := continuous.stores
  have stores := before.step step kept.keepsTables
  cases step with
  | edit edit =>
    rcases system.edit_cases edit with same | ⟨answer, next, store, done, changed, committed, edited⟩
    · rw [same]
      exact continuous
    · rw [edited] at traceable ⊢
      obtain ⟨count, few, changes⟩ :=
        Hub.RegistryEdit.changes_of_run before.sound before.ranges kept.1 done
      have fits := Nat.lt_of_le_of_lt few kept.2.size_lt
      exact continuous.commit before changes fits changed committed traceable
  | execute text =>
    obtain ⟨dispatched, same⟩ := system.execute_eq text
    rw [same] at traceable stores ⊢
    exact { continuous with traceable, stores }
  | @restart loaded options debounce found =>
    have same := Registry.beq_iff_same.mp (continuous.keepsHistory (.restart options debounce found)
      loaded found)
    obtain ⟨again, holds⟩ := stores
    exact continuous.boot same traceable holds
  | disturb store =>
    have tables : store.tables = system.store.tables := kept
    exact { continuous with traceable, stores, caches := by rw [tables]; exact continuous.caches }
  | @work event process alone step =>
    refine continuous.work step ?_ ?_ traceable stores continuous.caches
    · cases event <;> first | rfl | cases alone
    · rintro time rfl
      exact kept
  | consult answered step =>
    exact continuous.work step rfl nofun traceable stores continuous.caches
  | keep storing stored step =>
    have survives := continuous.survives storing
    exact continuous.work step rfl nofun traceable stores
      (Tables.cachesFrom_storeArtifact survives (Database.storeArtifact_eq_ok stored) system.cached)
  | lose storing lost step =>
    exact continuous.work step rfl nofun traceable stores continuous.caches

theorem continuous_of_reachable {options : GrammarOptions} {debounce now : Nat}
    (reached : Reachable KeepsDocuments (first {} options debounce now) system) :
    system.Continuous := by
  induction reached with
  | start => exact continuous_first options debounce now
  | step _ step kept ih => exact ih.step step kept

/-- However the system came where it is: a grammar that the running worker published, generated or
taken from the cache, is what a published registry of its version gives with the worker's options,
and every published registry of that version gives the same. -/
theorem published_eq_generate {options : GrammarOptions} {debounce now : Nat}
    (reached : Reachable KeepsDocuments (first {} options debounce now) system)
    {attempt : Hub.Attempt} (attempted : attempt ∈ system.process.attempts) {artifact : Artifact}
    (served : attempt.published = some artifact) :
    (∃ registry ∈ system.published, registry.version = artifact.sourceVersion ∧
      registry.generate system.process.worker.options artifact.generatedAt = .ok artifact) ∧
    ∀ registry ∈ system.published, registry.version = artifact.sourceVersion →
      ∃ made, registry.generate system.process.worker.options artifact.generatedAt = .ok made ∧
        (made == artifact) = true := by
  have continuous := continuous_of_reachable reached
  obtain ⟨⟨source, known, version, made⟩, options⟩ :=
    continuous.traceable.process.attempted attempt attempted artifact served
  rw [options] at made
  refine ⟨⟨source, known, version, made⟩, ?_⟩
  intro registry member same
  exact (continuous.chronicle.same source known registry member (version.trans same.symm)).generate
    made

/-- A start takes the grammar that the cache has for the stored registry and its own options. -/
theorem Reachable.warmStart {start : System Database} (reached : Reachable KeepsDocuments start system)
    {registry : Registry} {artifact : Artifact}
    (loaded : Storage.loadRegistry system.store = .ok (some registry))
    (found : Storage.loadArtifact system.store registry.version artifact.options =
      .ok (some artifact)) (debounce : Nat) (time : Time.Timestamp) :
    ∃ after, Reachable KeepsDocuments start after ∧
      after.process.worker.options = artifact.options ∧
      ⟨registry, some artifact⟩ ∈ after.process.attempts := by
  have started := (reached.step (.restart artifact.options debounce loaded) trivial).step
    (.work rfl (.begin rfl)) trivial
  have asked := started.step
    (.consult found (@Process.Step.consult _ registry rfl (.ok (some artifact)) time)) trivial
  refine ⟨_, asked, (@Process.Step.consult _ registry rfl (.ok (some artifact)) time).options, ?_⟩
  have accepted : ({ options := artifact.options, debounce } : Hub.Worker).accepted
      (.ok (some artifact)) = some artifact := by
    simp [Hub.Worker.accepted, Except.toOption]
  show (⟨registry, some artifact⟩ : Hub.Attempt) ∈
    ((({ options := artifact.options, debounce } : Hub.Worker).accepted (.ok (some artifact))).map
      fun artifact => (⟨registry, some artifact⟩ : Hub.Attempt)).toList ++ []
  rw [accepted]
  exact List.mem_singleton_self _

section Dimmer

def withDimmer : Registry := (withLounge.put dimmer).bump

/-- A grammar is generated for the dimmed lamp and cached. -/
theorem exists_cached_dimmer :
    ∃ (system : System Database) (artifact : Artifact),
      Reachable KeepsDocuments (first {} {} 500 0) system ∧ system.store.isBroken = false ∧
      system.commits = 2 ∧ system.registry.version = artifact.sourceVersion ∧
      artifact.options = {} ∧
      system.store.tables.loadArtifact artifact.sourceVersion artifact.options =
        .ok (some artifact) := by
  have survives : (Hub.RegistryEdit.upsertDevice dimmer).RangesIn ValueRange.Survives := by
    rintro range ⟨⟩
    exact survives_dimmed
  have succeeds : (withDimmer.generate {} ⟨0, 0⟩).isOk = true := by decide +kernel
  obtain ⟨artifact, made⟩ := exists_of_isOk succeeds
  have version := Registry.generate_sourceVersion made
  have small : artifact.sourceVersion.toNat < 0x8000000000000000 := by
    rw [version]
    decide +kernel
  have reached : ({} : Database).isBroken = false := rfl
  obtain ⟨located, committed, reached⟩ := Database.exists_commit reached
    (.between .empty withLounge) (by decide +kernel)
  obtain ⟨lit, committed', reached⟩ := Database.exists_commit reached
    (.between withLounge withDimmer) (by decide +kernel)
  obtain ⟨full, stored, reached⟩ := Database.exists_storeArtifact reached small
  have started : Reachable KeepsDocuments (first ({} : Database) {} 500 0) _ :=
    (Reachable.start.step (.work rfl (.begin rfl)) trivial).step
      (.consult rfl (@Process.Step.consult _ .empty rfl _ ⟨0, 0⟩)) trivial
  have edited := (started.step (.commit run_addLocation_lounge (by decide +kernel) committed)
      ⟨trivial, trivial⟩).step
    (.commit (run_upsertDevice_lamp (some dimmed))
      (show withDimmer.version ≠ withLounge.version by decide +kernel) committed')
      ⟨survives, trivial⟩
  have fired := edited.step
    (.work rfl (@Process.Step.fire _ 0 rfl rfl (Nat.zero_le _) rfl)) trivial
  have generated := fired.step
    (.work rfl (@Process.Step.generate _ withDimmer none artifact ⟨0, 0⟩ rfl made))
    (show Time.Timestamp.Survives ⟨0, 0⟩ by decide +kernel)
  have reads := (continuous_of_reachable generated).survives rfl
  have kept := generated.step
    (.keep rfl stored (@Process.Step.store _ withDimmer artifact none rfl true ⟨0, 0⟩)) trivial
  exact ⟨_, artifact, kept, reached, rfl, version.symm, Registry.generate_options made,
    Tables.loadArtifact_of_storeArtifact reads (Database.storeArtifact_eq_ok stored)⟩

/-- The system starts again, and the worker takes the grammar of the dimmed lamp from the cache. -/
theorem published_eq_generate_dimmer :
    ∃ (system : System Database) (artifact : Artifact),
      Reachable KeepsDocuments (first {} {} 500 0) system ∧
      (∃ attempt ∈ system.process.attempts, attempt.published = some artifact) ∧
      ∃ registry ∈ system.published, registry.version = artifact.sourceVersion ∧
        registry.generate {} artifact.generatedAt = .ok artifact := by
  obtain ⟨system, artifact, kept, intact, commits, version, options, found⟩ := exists_cached_dimmer
  obtain ⟨registry, stores⟩ := (continuous_of_reachable kept).stores
  have loaded : Storage.loadRegistry system.store = .ok (some registry) := by
    refine Database.unlessBroken_eq_ok.mpr ⟨intact, ?_⟩
    rw [stores.load, commits]
    rfl
  have cached : Storage.loadArtifact system.store registry.version artifact.options =
      .ok (some artifact) := by
    refine Database.unlessBroken_eq_ok.mpr ⟨intact, ?_⟩
    rw [stores.same.version.trans version]
    exact found
  obtain ⟨after, warm, running, attempted⟩ := kept.warmStart loaded cached 500 ⟨0, 0⟩
  obtain ⟨⟨source, known, same, made⟩, _⟩ := published_eq_generate warm attempted rfl
  rw [running, options] at made
  exact ⟨after, artifact, warm, ⟨_, attempted, rfl⟩, source, known, same, made⟩

end Dimmer

end System

end HomeVoice
