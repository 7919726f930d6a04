import HomeVoice.Hub.Basic
import HomeVoice.Proofs.Outcome
import HomeVoice.Proofs.Worker.Steps

/-!
# The steps of the whole system

The registry with its store, the grammar worker and the execution of commands work side by side.
A step is an edit, a step of the worker, a command, a start on what the store holds, or something
that happens to the store from outside. The worker gets the answers of the cache from the store,
and a grammar that the store takes in is there when it is asked for again.

What may happen is left to whoever looks at the runs; here every edit, every restart and every
change of the store is a step.
-/

namespace HomeVoice

open Hub (Process RegistryEdit applyEdit)
open Time (Timestamp)

/-- The store, the parts that work on it and what they did. -/
structure System (σ : Type) where
  store : σ
  process : Process
  /-- The registries that were published since the first start, the last one first. -/
  published : List Registry
  /-- How many edits were committed since the first start. -/
  commits : Nat
  /-- The grammars that the cache took in. -/
  cached : List Artifact
  /-- The requests that were handed over. -/
  dispatched : List DispatchRequest

namespace System

variable {σ : Type}

/-- What can happen to the system. -/
inductive Event (σ : Type) where
  | edit (edit : RegistryEdit)
  /-- Something happens to the worker. -/
  | work (event : Hub.Event)
  | execute (text : String)
  /-- The system starts again, possibly with other settings. -/
  | restart (options : GrammarOptions) (debounce : Nat)
  /-- The store becomes another one: out of reach, in reach again or whatever it may be. -/
  | disturb (store : σ)

/-- The registry that was published last. -/
abbrev registry (system : System σ) : Registry := system.process.latest

/-- The worker starts on what was loaded, on an empty registry if there is nothing. -/
def boot (system : System σ) (options : GrammarOptions) (debounce : Nat)
    (loaded : Option Registry) : System σ :=
  { system with
    process := .spawn options debounce (loaded.getD .empty) system.process.now
    published := loaded.getD .empty :: system.published }

/-- A system that starts for the first time, on a store with nothing in it. -/
def first (store : σ) (options : GrammarOptions) (debounce now : Nat) : System σ where
  store
  process := .spawn options debounce .empty now
  published := [.empty]
  commits := 0
  cached := []
  dispatched := []

/-- A new registry was committed and is published. -/
def commit (system : System σ) (registry : Registry) (store : σ) : System σ :=
  { system with
    store
    process := system.process.publish registry
    published := registry :: system.published
    commits := system.commits + 1 }

/-- Edit the registry. -/
def edit [Storage σ] (system : System σ) (edit : RegistryEdit) :
    Except Error edit.Answer × System σ :=
  match applyEdit system.store system.registry edit.run with
  | .error error => (.error error, system)
  | .ok (answer, registry, store) =>
    if registry.version = system.registry.version then (.ok answer, system)
    else (.ok answer, system.commit registry store)

/-- An edit fails or changes nothing, and then all is as before, or its changes were committed
before they are published. -/
theorem edit_cases [Storage σ] (system : System σ) (edit : RegistryEdit) :
    (system.edit edit).2 = system ∨
      ∃ answer next store, edit.run system.registry = .ok (answer, next) ∧
        next.version ≠ system.registry.version ∧
        Storage.commit system.store (.between system.registry next) = .ok store ∧
        system.edit edit = (.ok answer, system.commit next store) := by
  unfold System.edit
  cases applied : applyEdit system.store system.registry edit.run with
  | error _ => exact .inl rfl
  | ok outcome =>
    obtain ⟨answer, registry, store⟩ := outcome
    unfold applyEdit at applied
    obtain ⟨⟨given, next⟩, done, applied⟩ := bind_eq_ok.mp applied
    dsimp only at applied
    split at applied
    · cases applied
      exact .inl (by simp)
    next changed =>
      obtain ⟨committed, success, applied⟩ := bind_eq_ok.mp applied
      cases applied
      dsimp only
      rw [if_neg changed]
      exact .inr ⟨_, _, _, done, changed, mapError_eq_ok.mp success, rfl⟩

theorem edit_eq_commit [Storage σ] {system : System σ} {edit : RegistryEdit} {answer : edit.Answer}
    {next : Registry} {store : σ} (done : edit.run system.registry = .ok (answer, next))
    (changed : next.version ≠ system.registry.version)
    (committed : Storage.commit system.store (.between system.registry next) = .ok store) :
    system.edit edit = (.ok answer, system.commit next store) := by
  unfold System.edit applyEdit
  rw [done]
  simp [bind, Except.bind, changed, committed, mapError_ok, pure, Except.pure]

/-- Resolve what the engine wrote and hand the request over. -/
def execute (system : System σ) (text : String) : Except Error DispatchRequest × System σ :=
  match system.process.worker.resolve text with
  | .error error => (.error error, system)
  | .ok request => (.ok request, { system with dispatched := system.dispatched ++ [request] })

/-- A command changes nothing but what was handed over. -/
theorem execute_eq (system : System σ) (text : String) :
    ∃ dispatched, (system.execute text).2 = { system with dispatched } := by
  unfold System.execute
  split
  · exact ⟨system.dispatched, rfl⟩
  · exact ⟨_, rfl⟩

/-- What one event makes of the system. -/
inductive Step [Storage σ] : System σ → Event σ → System σ → Prop where
  | edit (system : System σ) (edit : RegistryEdit) : Step system (.edit edit) (system.edit edit).2
  | execute (system : System σ) (text : String) :
      Step system (.execute text) (system.execute text).2
  | restart {system : System σ} {loaded : Option Registry} (options : GrammarOptions)
      (debounce : Nat) (found : Storage.loadRegistry system.store = .ok loaded) :
      Step system (.restart options debounce) (system.boot options debounce loaded)
  | disturb (system : System σ) (store : σ) : Step system (.disturb store) { system with store }
  | work {system : System σ} {event : Hub.Event} {process : Process}
      (alone : event.isInternal = true) (step : system.process.Step event process) :
      Step system (.work event) { system with process }
  | consult {system : System σ} {version : UInt64}
      {answer : Except StorageError (Option Artifact)} {time : Timestamp} {process : Process}
      (answered : Storage.loadArtifact system.store version system.process.worker.options = answer)
      (step : system.process.Step (.consult version answer time) process) :
      Step system (.work (.consult version answer time))
        { system with process, store := Storage.noteLookup system.store }
  | keep {system : System σ} {snapshot : Registry} {artifact : Artifact} {request : Option Nat}
      {store : σ} {time : Timestamp} {process : Process}
      (storing : system.process.phase = .storing snapshot artifact request)
      (kept : Storage.storeArtifact system.store artifact = .ok store)
      (step : system.process.Step (.store true time) process) :
      Step system (.work (.store true time))
        { system with process, store, cached := artifact :: system.cached }
  | lose {system : System σ} {snapshot : Registry} {artifact : Artifact} {request : Option Nat}
      {error : StorageError} {time : Timestamp} {process : Process}
      (storing : system.process.phase = .storing snapshot artifact request)
      (lost : Storage.storeArtifact system.store artifact = .error error)
      (step : system.process.Step (.store false time) process) :
      Step system (.work (.store false time)) { system with process }

/-- An edit whose changes are committed. -/
theorem Step.commit [Storage σ] {system : System σ} {edit : RegistryEdit} {answer : edit.Answer}
    {next : Registry} {store : σ} (done : edit.run system.registry = .ok (answer, next))
    (changed : next.version ≠ system.registry.version)
    (committed : Storage.commit system.store (.between system.registry next) = .ok store) :
    Step system (.edit edit) (system.commit next store) := by
  have step := Step.edit system edit
  rwa [edit_eq_commit done changed committed] at step

/-- What a system becomes by steps that are permitted where they happen. -/
inductive Reachable [Storage σ] (permitted : System σ → Event σ → Prop) (start : System σ) :
    System σ → Prop where
  | start : Reachable permitted start start
  | step {system after : System σ} {event : Event σ} (before : Reachable permitted start system)
      (step : Step system event after) (allowed : permitted system event) :
      Reachable permitted start after

end System

end HomeVoice
