import HomeVoice.Proofs.Store.Database
import HomeVoice.Proofs.Store.Registry
import HomeVoice.Proofs.System.Calls
import HomeVoice.Proofs.Worker.Progress

/-!
# What becomes of the registry and its tables

Of all steps of the system only two do something to the published registry or to the rows of the
tables that hold it: an edit that is committed, and a start on what the tables hold. Nobody else
writes to these rows.
-/

namespace HomeVoice

open Hub (RegistryEdit applyEdit)
open Store (Database Tables)

namespace Store.Tables

/-- The rows of the registry are the same ones, whatever grammars are cached. -/
structure SameRegistry (first second : Tables) : Prop where
  version : first.version = second.version
  deviceTypes : first.deviceTypes = second.deviceTypes
  locations : first.locations = second.locations
  devices : first.devices = second.devices

theorem SameRegistry.refl (tables : Tables) : tables.SameRegistry tables := ⟨rfl, rfl, rfl, rfl⟩

variable {tables next : Tables}

theorem sameRegistry_of_eq (same : next = tables) : next.SameRegistry tables := same ▸ .refl _

theorem sameRegistry_of_storeArtifact {artifact : Artifact}
    (stored : tables.storeArtifact artifact = .ok next) : next.SameRegistry tables := by
  obtain ⟨artifacts, rfl⟩ := storeArtifact_eq_ok stored
  exact ⟨rfl, rfl, rfl, rfl⟩

end Store.Tables

namespace System

/-- What a step comes to for the registry and its tables. -/
inductive Effect (system : System Database) (event : Event Database) : System Database → Prop where
  | rest {after : System Database} (registry : after.registry = system.registry)
      (commits : after.commits = system.commits)
      (rows : after.store.tables.SameRegistry system.store.tables) : Effect system event after
  | commit {edit : RegistryEdit} {answer : edit.Answer} {next : Registry} {store : Database}
      (asked : event = .edit edit) (done : edit.run system.registry = .ok (answer, next))
      (changed : next.version ≠ system.registry.version)
      (committed : system.store.tables.commit (.between system.registry next) = .ok store.tables) :
      Effect system event (system.commit next store)
  | boot {options : GrammarOptions} {debounce : Nat} {loaded : Option Registry}
      (asked : event = .restart options debounce)
      (found : system.store.tables.load = .ok loaded) :
      Effect system event (system.boot options debounce loaded)

/-- Nobody else writes to the tables, which may be out of reach at any time. -/
def Undisturbed (system : System Database) : Event Database → Prop
  | .disturb store => store.tables = system.store.tables
  | _ => True

variable {system after : System Database} {event : Event Database}

theorem Step.effect (step : Step system event after) (undisturbed : Undisturbed system event) :
    Effect system event after := by
  cases step with
  | edit edit =>
    rcases system.edit_cases edit with
      same | ⟨answer, next, store, done, changed, committed, edited⟩
    · exact .rest (by rw [same]) (by rw [same]) (by rw [same]; exact .refl _)
    · rw [edited]
      exact .commit rfl done changed (Database.commit_eq_ok committed)
  | execute text =>
    obtain ⟨dispatched, same⟩ := system.execute_eq text
    rw [same]
    exact .rest rfl rfl (.refl _)
  | restart options debounce found => exact .boot rfl (Database.loadRegistry_eq_ok found)
  | disturb store => exact .rest rfl rfl (Tables.sameRegistry_of_eq undisturbed)
  | @work event process alone step =>
    refine .rest ?_ rfl (.refl _)
    show process.latest = _
    rw [step.latest]
    cases event <;> first | rfl | cases alone
  | consult answered step => exact .rest step.latest rfl (.refl _)
  | keep storing stored step =>
    exact .rest step.latest rfl
      (Tables.sameRegistry_of_storeArtifact (Database.storeArtifact_eq_ok stored))
  | lose storing lost step => exact .rest step.latest rfl (.refl _)

theorem Effect.sound (effect : Effect system event after) (sound : system.registry.Sound) :
    after.registry.Sound := by
  cases effect with
  | rest registry _ _ => exact registry ▸ sound
  | commit _ done _ _ => exact RegistryEdit.sound_of_run sound done
  | boot _ found => exact Tables.sound_of_load found

theorem sound_of_reachable (reached : Reachable Undisturbed system after)
    (sound : system.registry.Sound) : after.registry.Sound := by
  induction reached with
  | start => exact sound
  | step _ step undisturbed ih => exact (step.effect undisturbed).sound ih

/-- A call takes undisturbed steps if it does not write to the tables itself. -/
theorem undisturbed_of_takes {call : Hub.Call Database} (takes : call.Takes system event)
    (untouched : ∀ change dispatcher, call = .disturb change dispatcher →
      ∀ store, (change store).tables = store.tables) : Undisturbed system event := by
  cases event with
  | disturb store =>
    obtain ⟨change, dispatcher, asked, rfl⟩ := Hub.Call.exists_of_takes_disturb takes
    exact untouched change dispatcher asked system.store
  | _ => trivial

end System

namespace Hub

variable {σ α : Type} [Storage σ] {hub : Hub σ} {edit : Edit α} {answer : α} {next : Registry}

/-- A start publishes what the store holds. -/
theorem exists_start {outside : Surroundings σ} {loaded : Option Registry}
    (found : Storage.loadRegistry outside.store = .ok loaded) (settings : HubSettings) :
    ∃ started, Hub.start outside settings = .ok started ∧ started.registry = loaded.getD .empty :=
  ⟨_, bind_eq_ok.mpr ⟨loaded, mapError_eq_ok.mpr found, rfl⟩, settle_registry _⟩

/-! ### How an edit of a hub ends -/

theorem edit_of_error {error : Error} (failed : edit hub.registry = .error error) :
    hub.edit edit = (.error error, hub) := by
  unfold Hub.edit applyEdit
  rw [failed]
  rfl

/-- An edit that changes nothing needs no store. -/
theorem edit_of_same (done : edit hub.registry = .ok (answer, next))
    (same : next.version = hub.registry.version) : hub.edit edit = (.ok answer, hub) := by
  unfold Hub.edit applyEdit
  rw [done]
  simp [bind, Except.bind, same, pure, Except.pure]

theorem edit_of_lost {fault : StorageError} (done : edit hub.registry = .ok (answer, next))
    (changed : next.version ≠ hub.registry.version)
    (lost : Storage.commit hub.outside.store (.between hub.registry next) = .error fault) :
    hub.edit edit = (.error (.storage fault), hub) := by
  unfold Hub.edit applyEdit
  rw [done]
  simp [bind, Except.bind, changed, lost, mapError_error]

theorem edit_of_commit {store : σ} (done : edit hub.registry = .ok (answer, next))
    (changed : next.version ≠ hub.registry.version)
    (committed : Storage.commit hub.outside.store (.between hub.registry next) = .ok store) :
    ∃ after, hub.edit edit = (.ok answer, after) ∧ after.registry = next := by
  unfold Hub.edit applyEdit
  rw [done]
  simp only [bind, Except.bind, changed, committed, mapError_ok, pure, Except.pure, if_false]
  exact ⟨_, rfl, settle_registry _⟩

/-- An edit fails and leaves the hub, or it was done, and what it made is published unless the
version tells that it is nothing new. -/
theorem edit_cases (hub : Hub σ) (edit : Edit α) :
    (∃ error, hub.edit edit = (.error error, hub)) ∨
      ∃ answer next, edit hub.registry = .ok (answer, next) ∧ (hub.edit edit).1 = .ok answer ∧
        ((hub.edit edit).2 = hub ∧ next.version = hub.registry.version ∨
          (hub.edit edit).2.registry = next ∧ next.version ≠ hub.registry.version) := by
  cases done : edit hub.registry with
  | error error => exact .inl ⟨error, edit_of_error done⟩
  | ok outcome =>
    obtain ⟨answer, next⟩ := outcome
    by_cases same : next.version = hub.registry.version
    · rw [edit_of_same done same]
      exact .inr ⟨answer, next, rfl, rfl, .inl ⟨rfl, same⟩⟩
    · cases committed : Storage.commit hub.outside.store (.between hub.registry next) with
      | error fault => exact .inl ⟨_, edit_of_lost done same committed⟩
      | ok store =>
        obtain ⟨after, success, published⟩ := edit_of_commit done same committed
        rw [success]
        exact .inr ⟨answer, next, rfl, rfl, .inr ⟨published, same⟩⟩

theorem run_of_edit (answered : (hub.edit edit).1 = .ok answer) :
    ∃ next, edit hub.registry = .ok (answer, next) := by
  rcases hub.edit_cases edit with ⟨error, failed⟩ | ⟨given, next, done, success, _⟩
  · rw [failed] at answered
    cases answered
  · cases answered.symm.trans success
    exact ⟨next, done⟩

end Hub

end HomeVoice
