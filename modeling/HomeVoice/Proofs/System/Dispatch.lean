import HomeVoice.Proofs.Command.Resolution
import HomeVoice.Proofs.Registry.Same
import HomeVoice.Proofs.System.Steps
import HomeVoice.Proofs.Worker.Progress
import HomeVoice.Store.Memory

/-!
# Only justified requests are handed over

Through edits, attempts of the worker, warm starts and restarts the active grammar is always one
that some published registry gave. So whatever the engine writes, a request that is handed over is
one that this registry justifies, and without an active grammar none is.
-/

namespace HomeVoice

open Hub (Phase Process Worker)

/-- The grammar was generated from one of these registries. -/
def GeneratedFrom (published : List Registry) (artifact : Artifact) : Prop :=
  ∃ registry ∈ published, registry.version = artifact.sourceVersion ∧
    registry.generate artifact.options artifact.generatedAt = .ok artifact

theorem generatedFrom_of_generate {published : List Registry} {registry : Registry}
    {options : GrammarOptions} {time : Time.Timestamp} {artifact : Artifact}
    (known : registry ∈ published) (made : registry.generate options time = .ok artifact) :
    GeneratedFrom published artifact := by
  refine ⟨registry, known, (Registry.generate_sourceVersion made).symm, ?_⟩
  rw [Registry.generate_options made, Registry.generate_generatedAt made]
  exact made

theorem GeneratedFrom.mono {published others : List Registry} {artifact : Artifact}
    (generated : GeneratedFrom published artifact)
    (within : ∀ registry ∈ published, registry ∈ others) : GeneratedFrom others artifact := by
  obtain ⟨registry, known, made⟩ := generated
  exact ⟨registry, within registry known, made⟩

namespace Hub.Process

/-- Everything that the worker works on comes from published registries. -/
structure Traceable (published : List Registry) (process : Process) : Prop where
  latest : process.latest ∈ published
  snapshot : ∀ snapshot, process.phase.snapshot? = some snapshot → snapshot ∈ published
  storing : ∀ snapshot artifact request, process.phase = .storing snapshot artifact request →
    GeneratedFrom published artifact ∧ artifact.options = process.worker.options
  attempted : ∀ attempt ∈ process.attempts, ∀ artifact, attempt.published = some artifact →
    GeneratedFrom published artifact ∧ artifact.options = process.worker.options
  serving : process.worker.artifact = process.attempts.findSome? (·.published)

variable {published : List Registry} {process after : Process} {event : Event}

/-- The active grammar is one of those that were published. -/
theorem Traceable.active (traceable : Traceable published process) {artifact : Artifact}
    (active : process.worker.artifact = some artifact) :
    ∃ attempt ∈ process.attempts, attempt.published = some artifact := by
  rw [traceable.serving] at active
  exact List.exists_of_findSome?_eq_some active

/-- The worker looks at the registry that was published last and takes it up or not. -/
theorem Traceable.look (traceable : Traceable published process) {deadline : Option Nat}
    {phase : Phase} (taken : ∀ snapshot, phase.snapshot? = some snapshot → snapshot = process.latest)
    (fresh : ∀ snapshot artifact request, phase ≠ .storing snapshot artifact request) :
    Traceable published (process.look { process.worker with deadline } phase) where
  latest := traceable.latest
  snapshot snapshot busy := taken snapshot busy ▸ traceable.latest
  storing snapshot artifact request storing := absurd storing (fresh snapshot artifact request)
  attempted := traceable.attempted
  serving := traceable.serving

/-- An attempt ends, with a grammar of a published registry or without one. -/
theorem Traceable.conclude (traceable : Traceable published process) (snapshot : Registry)
    (request : Option Nat) {result : Except Error Artifact} (time : Time.Timestamp)
    (origin : ∀ artifact, result = .ok artifact →
      GeneratedFrom published artifact ∧ artifact.options = process.worker.options) :
    Traceable published (process.conclude snapshot request result time) where
  latest := traceable.latest
  snapshot := nofun
  storing := nofun
  attempted attempt member artifact made := by
    have options : (process.conclude snapshot request result time).worker.options =
        process.worker.options := Worker.conclude_options ..
    rw [options]
    rcases List.mem_cons.mp member with rfl | earlier
    · cases result with
      | error _ => cases made
      | ok _ =>
        cases made
        exact origin artifact rfl
    · exact traceable.attempted attempt earlier artifact made
  serving := conclude_serving traceable.serving ..

/-- Another registry is published. -/
theorem Traceable.publish (traceable : Traceable published process) (registry : Registry) :
    Traceable (registry :: published) (process.publish registry) where
  latest := List.mem_cons_self
  snapshot snapshot busy := List.mem_cons_of_mem _ (traceable.snapshot snapshot busy)
  storing snapshot artifact request storing :=
    have ⟨generated, options⟩ := traceable.storing snapshot artifact request storing
    ⟨generated.mono fun _ known => List.mem_cons_of_mem _ known, options⟩
  attempted attempt member artifact made :=
    have ⟨generated, options⟩ := traceable.attempted attempt member artifact made
    ⟨generated.mono fun _ known => List.mem_cons_of_mem _ known, options⟩
  serving := traceable.serving

theorem Traceable.step (traceable : Traceable published process)
    (step : Step process event after) (inside : event.registry? = none)
    (consulted : ∀ version artifact time, event = .consult version (.ok (some artifact)) time →
      GeneratedFrom published artifact) : Traceable published after := by
  have looked {snapshot : Registry} (taken : some process.latest = some snapshot) :
      snapshot = process.latest := (Option.some.inj taken).symm
  cases step with
  | publish registry => cases inside
  | request running => exact { traceable with }
  | refuse stopped => exact { traceable with }
  | wait ms => exact { traceable with }
  | begin starting => exact traceable.look (fun _ => looked) nofun
  | @consult snapshot consulting answer time =>
    rw [consult_eq]
    cases accepted : process.worker.accepted answer with
    | none => exact { traceable with snapshot := nofun, storing := nofun }
    | some artifact =>
      obtain ⟨rfl, matching⟩ := Worker.accepted_eq_some accepted
      refine traceable.conclude snapshot none time ?_
      intro found same
      cases same
      exact ⟨consulted _ _ _ rfl, matching⟩
  | notice waiting unseen =>
    unfold Worker.noticeEdit
    split
    · exact traceable.look nofun nofun
    · exact traceable.look nofun nofun
  | @serve request rest waiting queued =>
    have serving : Traceable published (process.look process.unplanned
      (.generating process.latest (some request))) := traceable.look (fun _ => looked) nofun
    exact { serving with }
  | skip waiting planned due current => exact traceable.look nofun nofun
  | fire waiting planned due stale => exact traceable.look (fun _ => looked) nofun
  | @generate snapshot request artifact time generating made =>
    have known := traceable.snapshot snapshot (by rw [generating]; rfl)
    refine { traceable with snapshot := ?_, storing := ?_ }
    · intro other busy
      cases busy
      exact known
    · intro other found request storing
      cases storing
      exact ⟨generatedFrom_of_generate known made, Registry.generate_options made⟩
  | fail generating failed => exact traceable.conclude _ _ _ nofun
  | abort generating time => exact traceable.conclude _ _ _ nofun
  | store storing kept time =>
    refine traceable.conclude _ _ _ ?_
    intro artifact same
    cases same
    exact traceable.storing _ _ _ storing
  | stop running => exact { traceable with snapshot := nofun, storing := nofun }

end Hub.Process

/-- What a worker resolves it resolves against its active grammar. -/
theorem Hub.Worker.resolve_ok {worker : Worker} {text : String} {request : DispatchRequest}
    (resolved : worker.resolve text = .ok request) :
    ∃ artifact command, worker.artifact = some artifact ∧ Command.parse text = .ok command ∧
      command.resolve artifact = .ok request := by
  unfold Hub.Worker.resolve at resolved
  split at resolved
  · cases resolved
  next artifact active =>
    obtain ⟨command, parsed, resolution⟩ := bind_eq_ok.mp resolved
    exact ⟨artifact, command, active, parsed, resolution⟩

namespace System

variable {σ : Type} [Storage σ] {system after : System σ} {event : Event σ}

/-- A start finds the registry that was published last, and the cache gives out only what the
workers of this system stored in it. -/
def KeepsHistory (system : System σ) : Event σ → Prop
  | .restart _ _ => ∀ loaded, Storage.loadRegistry system.store = .ok loaded →
    (loaded.getD .empty == system.registry) = true
  | .work (.consult _ (.ok (some artifact)) _) => artifact ∈ system.cached
  | _ => True

omit [Storage σ] in
/-- Everything that is at work in the system comes from published registries, which are sound. -/
structure Traceable (system : System σ) : Prop where
  sound : ∀ registry ∈ system.published, registry.Sound
  process : system.process.Traceable system.published
  cached : ∀ artifact ∈ system.cached, GeneratedFrom system.published artifact

omit [Storage σ] in
theorem traceable_first (store : σ) (options : GrammarOptions) (debounce now : Nat) :
    (first store options debounce now).Traceable where
  sound registry known := by
    rw [List.mem_singleton.mp known]
    exact Registry.sound_empty
  process :=
    { latest := List.mem_singleton_self _
      snapshot := nofun
      storing := nofun
      attempted := nofun
      serving := rfl }
  cached := nofun

omit [Storage σ] in
/-- The worker takes a step in which it gets no grammar but one from the history. -/
theorem Traceable.work (traceable : system.Traceable) {event : Hub.Event} {process : Process}
    (step : system.process.Step event process) (inside : event.registry? = none)
    (consulted : ∀ version artifact time, event = .consult version (.ok (some artifact)) time →
      GeneratedFrom system.published artifact) : { system with process }.Traceable :=
  { traceable with process := traceable.process.step step inside consulted }

omit [Storage σ] in
/-- More was published since. -/
theorem Traceable.publish (traceable : system.Traceable) {registry : Registry}
    (sound : registry.Sound) {process : Process}
    (started : process.Traceable (registry :: system.published)) :
    { system with process, published := registry :: system.published }.Traceable where
  sound := List.forall_mem_cons.mpr ⟨sound, traceable.sound⟩
  process := started
  cached artifact member :=
    (traceable.cached artifact member).mono fun _ known => List.mem_cons_of_mem _ known

theorem Traceable.step (traceable : system.Traceable) (step : Step system event after)
    (faithful : KeepsHistory system event) : after.Traceable := by
  have current := traceable.sound _ traceable.process.latest
  cases step with
  | edit edit =>
    rcases system.edit_cases edit with same | ⟨answer, next, store, done, _, _, edited⟩
    · rw [same]
      exact traceable
    · rw [edited]
      have sound := edit.sound_of_run current done
      exact { traceable.publish sound (traceable.process.publish next) with }
  | execute text =>
    obtain ⟨dispatched, same⟩ := system.execute_eq text
    rw [same]
    exact { traceable with }
  | @restart loaded options debounce found =>
    have same := Registry.beq_iff_same.mp (faithful loaded found)
    refine traceable.publish (same.symm.sound current) ?_
    exact
      { latest := List.mem_cons_self
        snapshot := nofun
        storing := nofun
        attempted := nofun
        serving := rfl }
  | disturb store => exact { traceable with }
  | @work event process alone step =>
    refine traceable.work step ?_ ?_
    · cases event <;> first | rfl | cases alone
    · rintro version artifact time rfl
      cases alone
  | @consult version answer time process answered step =>
    refine { traceable.work step rfl ?_ with }
    intro _ artifact _ same
    cases same
    exact traceable.cached artifact faithful
  | keep storing kept step =>
    have stored := (traceable.process.storing _ _ _ storing).1
    exact
      { traceable.work step rfl nofun with
        cached := List.forall_mem_cons.mpr ⟨stored, traceable.cached⟩ }
  | lose storing lost step => exact traceable.work step rfl nofun

theorem traceable_of_reachable {store : σ} {options : GrammarOptions} {debounce now : Nat}
    (reached : Reachable KeepsHistory (first store options debounce now) system) :
    system.Traceable := by
  induction reached with
  | start => exact traceable_first store options debounce now
  | step _ step faithful ih => exact ih.step step faithful

/-- However the system came where it is: executing a text hands over one request or none, and none
if the text cannot be resolved or no grammar was published. A request that is handed over is
justified by a registry that was published and has the version of the active grammar. -/
theorem execute_is_safe {store : σ} {options : GrammarOptions} {debounce now : Nat}
    (reached : Reachable KeepsHistory (first store options debounce now) system) (text : String) :
    ((∃ request, system.process.worker.resolve text = .ok request ∧
        (system.execute text).2.dispatched = system.dispatched ++ [request] ∧
        ∃ artifact registry, system.process.worker.artifact = some artifact ∧
          registry ∈ system.published ∧ registry.version = artifact.sourceVersion ∧
          request.JustifiedBy registry text) ∨
      ∃ error, system.process.worker.resolve text = .error error ∧
        (system.execute text).2.dispatched = system.dispatched) ∧
    ((∀ attempt ∈ system.process.attempts, attempt.published = none) →
      (system.execute text).2.dispatched = system.dispatched) := by
  have traceable := traceable_of_reachable reached
  constructor
  · cases resolved : system.process.worker.resolve text with
    | error error => exact .inr ⟨error, rfl, by simp [System.execute, resolved]⟩
    | ok request =>
      refine .inl ⟨request, rfl, by simp [System.execute, resolved], ?_⟩
      obtain ⟨artifact, command, active, parsed, resolution⟩ := Worker.resolve_ok resolved
      obtain ⟨attempt, member, served⟩ := traceable.process.active active
      obtain ⟨registry, known, version, made⟩ :=
        (traceable.process.attempted attempt member artifact served).1
      refine ⟨artifact, registry, active, known, version, ?_⟩
      exact DispatchRequest.justifiedBy_of_generate (traceable.sound registry known).owned made
        parsed resolution
  · intro never
    have inactive : system.process.worker.artifact = none := by
      rw [traceable.process.serving]
      exact List.findSome?_eq_none_iff.mpr never
    simp [System.execute, Worker.resolve, inactive]

section Lamp

/-! A home with one lamp, to see a run in which a command is carried out. -/

def lounge : Location := ⟨"lounge", by decide, by decide +kernel, "lounge", by decide +kernel⟩

def lights : DeviceType := ⟨"lights", by decide, by decide +kernel, "lights", by decide +kernel⟩

def lamp : Device where
  id := ⟨"lamp", by decide +kernel⟩
  deviceType := some lights
  location := some lounge

def withLounge : Registry := (Registry.empty.addLocation lounge).2

def withLamp : Registry := (withLounge.put lamp).bump

def lampCommand : String :=
  "\x7b\"deviceType\":\"lights\",\"action\":\"set-percent\",\"location\":\"lounge\",\"value\":\"40\"\x7d"

theorem run_addLocation_lounge :
    (Hub.RegistryEdit.addLocation lounge).run Registry.empty = .ok (true, withLounge) := rfl

theorem run_upsertDevice_lamp (range : Option ValueRange) :
    (Hub.RegistryEdit.upsertDevice { lamp with valueRange := range }).run withLounge =
      .ok ({ lamp with valueRange := range },
        (withLounge.put { lamp with valueRange := range }).bump) := by
  have fits : withLounge.checkMembership { lamp with valueRange := range } = .ok () := by
    rw [Registry.checkMembership_eq_ok_iff]
    constructor
    · rintro _ ⟨⟩
      decide +kernel
    · rintro _ ⟨⟩
      decide +kernel
  have stored : withLounge.upsert { lamp with valueRange := range } =
      .ok (withLounge.put { lamp with valueRange := range }).bump := by
    unfold Registry.upsert
    rw [fits]
    rfl
  simp only [Hub.RegistryEdit.run, stored]
  rfl

/-- The command is understood with the grammar that is generated for the lamp. -/
theorem lampCommand_resolves : ∃ command artifact request,
    Command.parse lampCommand = .ok command ∧ withLamp.generate {} ⟨0, 0⟩ = .ok artifact ∧
      command.resolve artifact = .ok request := by
  have succeeds : (Command.parse lampCommand >>= fun command =>
      withLamp.generate {} ⟨0, 0⟩ >>= command.resolve).isOk = true := by decide +kernel
  obtain ⟨request, resolved⟩ := exists_of_isOk succeeds
  obtain ⟨command, parsed, resolved⟩ := bind_eq_ok.mp resolved
  obtain ⟨artifact, made, resolved⟩ := bind_eq_ok.mp resolved
  exact ⟨command, artifact, request, parsed, made, resolved⟩

/-- After two edits the worker generates a grammar for the lamp, and the command is handed over. -/
theorem execute_is_safe_lamp :
    ∃ (system : System Store.Memory) (request : DispatchRequest),
      Reachable KeepsHistory (first {} {} 500 0) system ∧
      (system.execute lampCommand).2.dispatched = [request] ∧
      ∃ registry ∈ system.published, request.JustifiedBy registry lampCommand := by
  obtain ⟨command, artifact, request, parsed, made, resolved⟩ := lampCommand_resolves
  have edited : Reachable KeepsHistory (first ({} : Store.Memory) {} 500 0) _ :=
    (Reachable.start.step (.commit run_addLocation_lounge (by decide +kernel) rfl) trivial).step
      (.commit (run_upsertDevice_lamp none) (by decide +kernel) rfl) trivial
  have asked := (edited.step (.work rfl (.begin rfl)) trivial).step
    (.consult rfl (@Process.Step.consult _ withLamp rfl _ ⟨0, 0⟩)) trivial
  have fired := asked.step (.work rfl (@Process.Step.fire _ 0 rfl rfl (by decide) rfl)) trivial
  have generated := fired.step
    (.work rfl (@Process.Step.generate _ withLamp none artifact ⟨0, 0⟩ rfl made)) trivial
  have kept := generated.step
    (.keep rfl rfl (@Process.Step.store _ withLamp artifact none rfl true ⟨0, 0⟩)) trivial
  rcases (execute_is_safe kept lampCommand).1 with
    ⟨request, _, handed, _, registry, _, known, _, justified⟩ | ⟨error, failed, _⟩
  · exact ⟨_, request, kept, handed, registry, known, justified⟩
  · have resolution : Command.parse lampCommand >>= (·.resolve artifact) = .error error := failed
    rw [parsed] at resolution
    cases resolved.symm.trans resolution

end Lamp

end System

end HomeVoice
