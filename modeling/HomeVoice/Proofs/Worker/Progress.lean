import Mathlib.Data.List.Nodup
import HomeVoice.Proofs.Grammar.Generation
import HomeVoice.Proofs.Worker.Steps

/-!
# No edit is lost

However edits, requests, deadlines and failures follow each other, the status always tells of the
last attempt, the active grammar is the last one that an attempt published, and a worker that has
nothing to do has attempted the registry that was published last. The published registries have
ascending versions, and the cache answers with grammars of the version it is asked for.
-/

namespace HomeVoice.Hub

open Time (Timestamp)

/-- The registry that the worker took up and is not done with. -/
def Phase.snapshot? : Phase → Option Registry
  | consulting snapshot | generating snapshot _ | storing snapshot _ _ => some snapshot
  | starting | waiting | stopped => none

/-- The cache answers with grammars of the version that it was asked for. -/
def CacheKeyed (events : List Event) : Prop :=
  ∀ version artifact time, Event.consult version (.ok (some artifact)) time ∈ events →
    artifact.sourceVersion = version

/-- The grammar was generated for a registry, or the cache had it for that registry's version. -/
def Originates (options : GrammarOptions) (events : List Event) (snapshot : Registry)
    (artifact : Artifact) : Prop :=
  artifact.sourceVersion = snapshot.version ∧ artifact.options = options ∧
    ((∃ time, snapshot.generate options time = .ok artifact) ∨
      ∃ time, Event.consult snapshot.version (.ok (some artifact)) time ∈ events)

/-- The status tells of an attempt. -/
structure GrammarStatus.Describes (status : GrammarStatus) (attempt : Attempt) : Prop where
  version : status.registryVersion = attempt.snapshot.version
  conflicts : status.conflicts = attempt.snapshot.validate.conflicts
  incomplete : status.incomplete = attempt.snapshot.validate.incomplete
  lastError : status.lastError = none ↔ attempt.published.isSome = true

/-- The status tells of the last attempt, if there was one. -/
def GrammarStatus.TellsOf (status : GrammarStatus) : List Attempt → Prop
  | [] => status = {}
  | attempt :: _ => status.Describes attempt

section Conclusion

variable (worker : Worker) (snapshot : Registry) (result : Except Error Artifact) (time : Timestamp)

/-- An attempt that fails leaves the active grammar serving. -/
theorem Worker.conclude_artifact :
    (worker.conclude snapshot result time).artifact = result.toOption.or worker.artifact := by
  cases result <;> rfl

theorem Worker.conclude_active
    (active : worker.status.active = worker.artifact.map Artifact.metadata) :
    (worker.conclude snapshot result time).status.active =
      (worker.conclude snapshot result time).artifact.map Artifact.metadata := by
  cases result with
  | error _ => exact active
  | ok _ => rfl

theorem Worker.conclude_describes
    (fits : ∀ artifact, result = .ok artifact → artifact.sourceVersion = snapshot.version) :
    (worker.conclude snapshot result time).status.Describes ⟨snapshot, result.toOption⟩ := by
  cases result with
  | error error => exact ⟨rfl, rfl, rfl, by simp [conclude, noteFailure, Except.toOption]⟩
  | ok artifact => exact ⟨fits artifact rfl, rfl, rfl, by simp [conclude, publish, Except.toOption]⟩

end Conclusion

namespace Process

/-- The worker waits and nothing is there for it to do. -/
structure Idle (process : Process) : Prop where
  waiting : process.phase = .waiting
  unplanned : process.worker.deadline = none
  seen : process.unseen = false
  unrequested : process.queue = []

/-- A registry that was published, is no older than any attempt and no newer than the latest one;
it is the latest one itself unless the worker has yet to take notice of that. -/
structure Held (published : List Registry) (process : Process) (snapshot : Registry) : Prop where
  published : snapshot ∈ published
  newer : ∀ attempt ∈ process.attempts, attempt.snapshot.version ≤ snapshot.version
  older : snapshot.version ≤ process.latest.version
  latest : process.unseen = false → snapshot = process.latest

/-- What holds of a worker after every event of a run. -/
structure Coherent (options : GrammarOptions) (published : List Registry) (events : List Event)
    (process : Process) : Prop where
  configured : process.worker.options = options
  latest : process.latest ∈ published
  active : process.worker.status.active = process.worker.artifact.map Artifact.metadata
  serving : process.worker.artifact = process.attempts.findSome? (·.published)
  reported : process.worker.status.TellsOf process.attempts
  attempted : ∀ attempt ∈ process.attempts, attempt.snapshot ∈ published
  origins : ∀ attempt ∈ process.attempts, ∀ artifact, attempt.published = some artifact →
    Originates options events attempt.snapshot artifact
  ordered : process.attempts.Pairwise fun later earlier =>
    earlier.snapshot.version ≤ later.snapshot.version
  bounded : ∀ attempt ∈ process.attempts, attempt.snapshot.version ≤ process.latest.version
  held : ∀ snapshot, process.phase.snapshot? = some snapshot → Held published process snapshot
  generated : ∀ snapshot artifact request, process.phase = .storing snapshot artifact request →
    ∃ time, snapshot.generate options time = .ok artifact
  running : process.phase ≠ .stopped → process.worker.isRunning = true
  caughtUp : process.phase = .waiting → process.unseen = false → process.worker.deadline = none →
    ∃ attempt rest, process.attempts = attempt :: rest ∧
      attempt.snapshot.version = process.latest.version

variable {options : GrammarOptions} {published : List Registry} {events : List Event}
  {process : Process}

theorem coherent_spawn {initial : Registry} (debounce now : Nat) (known : initial ∈ published) :
    Coherent options published events (spawn options debounce initial now) where
  configured := rfl
  latest := known
  active := rfl
  serving := rfl
  reported := rfl
  attempted := nofun
  origins := nofun
  ordered := .nil
  bounded := nofun
  held := nofun
  generated := nofun
  running _ := rfl
  caughtUp := nofun

/-- Requests, answers and the clock do not matter. -/
theorem Coherent.aside (coherent : Coherent options published events process) (queue : List Nat)
    (requested now : Nat) (answers : List (Nat × Except Error Artifact)) :
    Coherent options published events { process with queue, requested, now, answers } :=
  { coherent with
    held := fun snapshot busy =>
      have held := coherent.held snapshot busy
      { held with } }

theorem Coherent.publish (coherent : Coherent options published events process)
    {registry : Registry} (known : registry ∈ published)
    (newer : process.latest.version < registry.version) :
    Coherent options published events (process.publish registry) where
  configured := coherent.configured
  latest := known
  active := coherent.active
  serving := coherent.serving
  reported := coherent.reported
  attempted := coherent.attempted
  origins := coherent.origins
  ordered := coherent.ordered
  bounded attempt member :=
    UInt64.le_trans (coherent.bounded attempt member) (UInt64.le_of_lt newer)
  held snapshot busy :=
    have held := coherent.held snapshot busy
    { published := held.published
      newer := held.newer
      older := UInt64.le_trans held.older (UInt64.le_of_lt newer)
      latest := nofun }
  generated := coherent.generated
  running := coherent.running
  caughtUp := nofun

/-- The worker looks at the registry that was published last. If it goes on waiting without a plan
it must have attempted that registry already. -/
theorem Coherent.look (coherent : Coherent options published events process)
    (running : process.phase ≠ .stopped) {deadline : Option Nat} {phase : Phase}
    (taken : ∀ snapshot, phase.snapshot? = some snapshot → snapshot = process.latest)
    (fresh : ∀ snapshot artifact request, phase ≠ .storing snapshot artifact request)
    (caughtUp : phase = .waiting → deadline = none →
      ∃ attempt rest, process.attempts = attempt :: rest ∧
        attempt.snapshot.version = process.latest.version) :
    Coherent options published events (process.look { process.worker with deadline } phase) where
  configured := coherent.configured
  latest := coherent.latest
  active := coherent.active
  serving := coherent.serving
  reported := coherent.reported
  attempted := coherent.attempted
  origins := coherent.origins
  ordered := coherent.ordered
  bounded := coherent.bounded
  held snapshot busy := taken snapshot busy ▸
    { published := coherent.latest
      newer := coherent.bounded
      older := UInt64.le_refl _
      latest := fun _ => rfl }
  generated snapshot artifact request storing := absurd storing (fresh snapshot artifact request)
  running _ := coherent.running running
  caughtUp waiting _ unplanned := caughtUp waiting unplanned

/-- If the active grammar is that of the latest registry, the last attempt was made for it. -/
theorem Coherent.attempted_of_isCurrent (coherent : Coherent options published events process)
    (current : process.worker.isCurrent process.latest = true) :
    ∃ attempt rest, process.attempts = attempt :: rest ∧
      attempt.snapshot.version = process.latest.version := by
  obtain ⟨artifact, active, same⟩ := Option.any_eq_true .. |>.mp current
  simp only [Bool.and_eq_true, beq_iff_eq] at same
  rw [coherent.serving] at active
  obtain ⟨attempt, member, made⟩ := List.exists_of_findSome?_eq_some active
  have version := (coherent.origins attempt member artifact made).1
  cases attempts : process.attempts with
  | nil => simp [attempts] at member
  | cons last earlier =>
    refine ⟨last, earlier, rfl, ?_⟩
    apply UInt64.le_antisymm
    · exact coherent.bounded last (by simp [attempts])
    · rw [← same.1, version]
      rw [attempts] at member
      rcases List.mem_cons.mp member with here | before
      · exact here ▸ UInt64.le_refl _
      · exact (List.pairwise_cons.mp (attempts ▸ coherent.ordered)).1 attempt before

/-- The active grammar stays the last one that an attempt published. -/
theorem conclude_serving (serving : process.worker.artifact = process.attempts.findSome? (·.published))
    (snapshot : Registry) (request : Option Nat) (result : Except Error Artifact)
    (time : Timestamp) :
    (process.conclude snapshot request result time).worker.artifact =
      (process.conclude snapshot request result time).attempts.findSome? (·.published) := by
  refine (Worker.conclude_artifact ..).trans ?_
  rw [serving]
  show _ = List.findSome? _ (⟨snapshot, result.toOption⟩ :: process.attempts)
  cases result <;> rfl

/-- An attempt ends, with a grammar that comes from its registry or without one. -/
theorem Coherent.conclude (coherent : Coherent options published events process)
    {snapshot : Registry} (held : Held published process snapshot) (running : process.phase ≠ .stopped)
    {result : Except Error Artifact}
    (origin : ∀ artifact, result = .ok artifact → Originates options events snapshot artifact)
    (request : Option Nat) (time : Timestamp) :
    Coherent options published events (process.conclude snapshot request result time) := by
  have origins : ∀ artifact, result.toOption = some artifact →
      Originates options events snapshot artifact := by
    intro artifact made
    cases result with
    | error _ => cases made
    | ok _ =>
      cases made
      exact origin artifact rfl
  constructor
  case configured => exact (Worker.conclude_options ..).trans coherent.configured
  case latest => exact coherent.latest
  case active => exact Worker.conclude_active _ _ _ _ coherent.active
  case serving => exact conclude_serving coherent.serving ..
  case reported =>
    exact Worker.conclude_describes _ _ _ _ fun artifact made => (origin artifact made).1
  case attempted => exact List.forall_mem_cons.mpr ⟨held.published, coherent.attempted⟩
  case origins => exact List.forall_mem_cons.mpr ⟨origins, coherent.origins⟩
  case ordered => exact List.pairwise_cons.mpr ⟨held.newer, coherent.ordered⟩
  case bounded => exact List.forall_mem_cons.mpr ⟨held.older, coherent.bounded⟩
  case held => exact nofun
  case generated => exact nofun
  case running => exact fun _ => (Worker.conclude_isRunning ..).trans (coherent.running running)
  case caughtUp =>
    intro _ seen _
    exact ⟨_, _, rfl, congrArg Registry.version (held.latest seen)⟩

/-- Asking the cache at the start is an attempt if the cache has a grammar. -/
theorem consult_eq (process : Process) (snapshot : Registry)
    (answer : Except StorageError (Option Artifact)) (time : Timestamp) :
    process.consult snapshot answer time =
      match process.worker.accepted answer with
      | some artifact => process.conclude snapshot none (.ok artifact) time
      | none =>
        { process with
          phase := .waiting
          worker := { process.worker with deadline := some process.now } } := by
  unfold consult
  rw [Worker.start_eq]
  cases process.worker.accepted answer <;> rfl

theorem Coherent.consult (coherent : Coherent options published events process)
    {snapshot : Registry} (consulting : process.phase = .consulting snapshot)
    {answer : Except StorageError (Option Artifact)} {time : Timestamp}
    (happens : .consult snapshot.version answer time ∈ events) (keyed : CacheKeyed events) :
    Coherent options published events (process.consult snapshot answer time) := by
  have running : process.phase ≠ .stopped := by simp [consulting]
  rw [consult_eq]
  cases accepted : process.worker.accepted answer with
  | some artifact =>
    obtain ⟨rfl, matching⟩ := Worker.accepted_eq_some accepted
    refine coherent.conclude (coherent.held snapshot (by rw [consulting]; rfl)) running ?_ none time
    intro found same
    cases same
    exact ⟨keyed _ _ _ happens, matching.trans coherent.configured, .inr ⟨time, happens⟩⟩
  | none =>
    exact
      { coherent with
        held := nofun
        generated := nofun
        running := fun _ => coherent.running running
        caughtUp := nofun }

/-- What one event keeps. -/
theorem Coherent.step (coherent : Coherent options published events process) {event : Event}
    {after : Process} (step : Step process event after) (happens : event ∈ events)
    (keyed : CacheKeyed events)
    (fresh : ∀ registry, event = .publish registry →
      registry ∈ published ∧ process.latest.version < registry.version) :
    Coherent options published events after := by
  cases step with
  | publish registry =>
    obtain ⟨known, newer⟩ := fresh registry rfl
    exact coherent.publish known newer
  | request running => exact coherent.aside ..
  | refuse stopped => exact coherent.aside ..
  | wait ms => exact coherent.aside ..
  | begin starting =>
    refine coherent.look (by simp [starting]) ?_ nofun nofun
    intro snapshot taken
    exact (Option.some.inj taken).symm
  | consult consulting answer time => exact coherent.consult consulting happens keyed
  | notice waiting unseen =>
    have running := coherent.running (by simp [waiting])
    rw [Worker.noticeEdit, if_pos running]
    exact coherent.look (by simp [waiting]) nofun nofun nofun
  | @serve request rest waiting queued =>
    have looked : Coherent options published events (process.look process.unplanned
        (.generating process.latest (some request))) := by
      refine coherent.look (by simp [waiting]) ?_ nofun nofun
      intro snapshot taken
      exact (Option.some.inj taken).symm
    exact looked.aside ..
  | skip waiting planned due current =>
    refine coherent.look (by simp [waiting]) nofun nofun ?_
    exact fun _ _ => coherent.attempted_of_isCurrent current
  | fire waiting planned due stale =>
    refine coherent.look (by simp [waiting]) ?_ nofun nofun
    intro snapshot taken
    exact (Option.some.inj taken).symm
  | @generate snapshot request artifact time generating made =>
    have held := coherent.held snapshot (by rw [generating]; rfl)
    rw [coherent.configured] at made
    exact
      { coherent with
        held := fun other busy => Option.some.inj busy ▸ { held with }
        generated := fun other found request storing => by
          cases storing
          exact ⟨time, made⟩
        running := fun _ => coherent.running (by simp [generating])
        caughtUp := nofun }
  | fail generating failed =>
    refine coherent.conclude (coherent.held _ (by rw [generating]; rfl)) (by simp [generating]) ?_ ..
    intro _ made
    cases made
  | abort generating time =>
    refine coherent.conclude (coherent.held _ (by rw [generating]; rfl)) (by simp [generating]) ?_ ..
    intro _ made
    cases made
  | store storing kept time =>
    refine coherent.conclude (coherent.held _ (by rw [storing]; rfl)) (by simp [storing]) ?_ ..
    intro artifact same
    cases same
    obtain ⟨made, generated⟩ := coherent.generated _ _ _ storing
    exact ⟨Registry.generate_sourceVersion generated, Registry.generate_options generated,
      .inl ⟨made, generated⟩⟩
  | stop running =>
    exact { coherent with held := nofun, generated := nofun, running := nofun, caughtUp := nofun }

theorem Step.latest {event : Event} {after : Process} (step : Step process event after) :
    after.latest = event.registry?.getD process.latest := by
  cases step <;> rfl

theorem publications_append (initial : Registry) (events : List Event) (event : Event) :
    publications initial (events ++ [event]) =
      publications initial events ++ event.registry?.toList := by
  simp only [publications, List.filterMap_append, List.cons_append]
  cases event <;> rfl

/-- What was published at some time stays published. -/
theorem publications_sublist (initial : Registry) (before later : List Event) :
    List.Sublist (publications initial before) (publications initial (before ++ later)) :=
  ((List.sublist_append_left before later).filterMap _).cons_cons _

/-- The worker is shown the registry that was published last. -/
theorem run_latest {start : Process} (run : Run start events process) :
    (publications start.latest events).getLast? = some process.latest := by
  induction run with
  | nil => rfl
  | @step events process after event before step ih =>
    rw [publications_append, step.latest]
    cases event.registry? with
    | none => simpa using ih
    | some registry => simp

/-- A registry that is published is newer than the latest one. -/
theorem latest_lt_of_publish {start : Process} (run : Run start events process) {event : Event}
    (ascending : (publications start.latest (events ++ [event])).Pairwise fun earlier later =>
      earlier.version < later.version)
    {registry : Registry} (published : event = .publish registry) :
    process.latest.version < registry.version := by
  subst published
  rw [publications_append] at ascending
  have across := (List.pairwise_append.mp ascending).2.2
  exact across _ (List.mem_of_getLast? (run_latest run)) registry (by simp [Event.registry?])

/-- Registries with ascending versions are told apart by their versions. -/
theorem eq_of_version {registries : List Registry} {first second : Registry}
    (ascending : registries.Pairwise fun earlier later => earlier.version < later.version)
    (known : first ∈ registries) (other : second ∈ registries)
    (same : first.version = second.version) : first = second := by
  refine List.inj_on_of_nodup_map (f := Registry.version) ?_ known other same
  refine ascending.map Registry.version ?_
  intro earlier later below equal
  exact UInt64.lt_irrefl _ (equal ▸ below)

theorem version_le_of_getLast? {registries : List Registry} {last registry : Registry}
    (ascending : registries.Pairwise fun earlier later => earlier.version < later.version)
    (final : registries.getLast? = some last) (known : registry ∈ registries) :
    registry.version ≤ last.version := by
  obtain ⟨earlier, rfl⟩ := List.getLast?_eq_some_iff.mp final
  rcases List.mem_append.mp known with before | here
  · have below := (List.pairwise_append.mp ascending).2.2 registry before last (by simp)
    exact UInt64.le_of_lt below
  · rw [List.mem_singleton.mp here]
    exact UInt64.le_refl _

theorem coherent_of_run {debounce now : Nat} {initial : Registry} {all : List Event}
    (run : Run (spawn options debounce initial now) events process)
    (ascending : (publications initial events).Pairwise fun earlier later =>
      earlier.version < later.version)
    (within : ∀ event ∈ events, event ∈ all) (keyed : CacheKeyed all) :
    Coherent options (publications initial all) all process := by
  induction run with
  | nil => exact coherent_spawn _ _ List.mem_cons_self
  | @step events process after event before step ih =>
    have happens := within event (by simp)
    have earlier := ascending.sublist (publications_sublist initial events [event])
    refine (ih earlier fun other member => within other (by simp [member])).step step happens keyed ?_
    intro registry published
    have newer := latest_lt_of_publish before ascending published
    subst published
    exact ⟨List.mem_cons_of_mem _ (List.mem_filterMap.mpr ⟨_, happens, rfl⟩), newer⟩

/-- The status goes with the active grammar and tells of the last attempt, which was made for one
of the published registries, and the grammar is the one that was published last. -/
structure Accountable (published : List Registry) (process : Process) : Prop where
  active : process.worker.status.active = process.worker.artifact.map Artifact.metadata
  serving : process.worker.artifact = process.attempts.findSome? (·.published)
  reported : process.worker.status.TellsOf process.attempts
  attempted : ∀ attempt ∈ process.attempts, attempt.snapshot ∈ published
  identified : ∀ attempt ∈ process.attempts, ∀ registry ∈ published,
    registry.version = attempt.snapshot.version → registry = attempt.snapshot

/-- The last attempt was made for the newest registry. Either its grammar is the active one or it
failed, and then the grammar that was published before it, if any was, still serves. -/
structure CaughtUp (options : GrammarOptions) (events : List Event) (published : List Registry)
    (process : Process) : Prop where
  attempted : process.worker.status.registryVersion = process.latest.version
  latest : published.getLast? = some process.latest
  newest : ∀ registry ∈ published, registry.version ≤ process.latest.version
  grammar :
    (∃ artifact, process.worker.artifact = some artifact ∧
      Originates options events process.latest artifact) ∨
    (process.worker.status.lastError ≠ none ∧
      process.worker.artifact = process.attempts.findSome? (·.published))

/-- In every state that a run of the worker reaches the status accounts for the last attempt, and
a worker with nothing to do has caught up with the edits. -/
theorem run_catches_up {debounce now : Nat} {initial : Registry}
    (run : Run (spawn options debounce initial now) events process)
    (ascending : (publications initial events).Pairwise fun earlier later =>
      earlier.version < later.version)
    (keyed : CacheKeyed events) :
    Accountable (publications initial events) process ∧
      (process.Idle → CaughtUp options events (publications initial events) process) := by
  have coherent := coherent_of_run run ascending (fun _ member => member) keyed
  constructor
  · exact
      { active := coherent.active
        serving := coherent.serving
        reported := coherent.reported
        attempted := coherent.attempted
        identified := fun attempt member registry known same =>
          eq_of_version ascending known (coherent.attempted attempt member) same }
  · intro idle
    obtain ⟨attempt, earlier, attempts, version⟩ :=
      coherent.caughtUp idle.waiting idle.seen idle.unplanned
    have member : attempt ∈ process.attempts := by simp [attempts]
    have described : process.worker.status.Describes attempt := by
      have reported := coherent.reported
      rwa [attempts] at reported
    have same : attempt.snapshot = process.latest :=
      eq_of_version ascending (coherent.attempted attempt member) coherent.latest version
    constructor
    case attempted => exact described.version.trans version
    case latest => exact run_latest run
    case newest => exact fun registry known => version_le_of_getLast? ascending (run_latest run) known
    case grammar =>
      cases made : attempt.published with
      | some artifact =>
        refine .inl ⟨artifact, ?_, same ▸ coherent.origins attempt member artifact made⟩
        rw [coherent.serving, attempts, List.findSome?_cons, made]
      | none =>
        refine .inr ⟨?_, coherent.serving⟩
        intro clear
        have published := described.lastError.mp clear
        rw [made] at published
        cases published

/-- The cached grammar of the first registry goes on serving after the attempt for the second one,
which has no devices, failed. -/
theorem run_catches_up_after_failure :
    let cached : Artifact := ⟨"", .empty, .empty, .empty, ⟨0, 0⟩, 0, {}⟩
    let edited : Registry := Registry.empty.bump
    let events := [.begin, .consult 0 (.ok (some cached)) ⟨0, 0⟩, .publish edited, .notice,
      .wait 500, .fire, .generate ⟨0, 0⟩]
    ∃ process, Run (spawn {} 500 .empty 0) events process ∧
      (publications .empty events).Pairwise (fun earlier later => earlier.version < later.version) ∧
      CacheKeyed events ∧ process.Idle ∧ process.worker.artifact = some cached ∧
      CaughtUp {} events (publications .empty events) process := by
  intro cached edited events
  have accepted : (spawn {} 500 .empty 0).worker.accepted (.ok (some cached)) = some cached := rfl
  have failed : edited.generate {} ⟨0, 0⟩ = .error (.configuration .emptyRegistry) := rfl
  have consulted : Run (spawn {} 500 .empty 0) [.begin, .consult 0 (.ok (some cached)) ⟨0, 0⟩] _ :=
    .step (.step .nil (.begin rfl)) (@Step.consult _ .empty rfl _ _)
  have noticed := ((consulted.step (.publish _ edited)).step (.notice rfl rfl)).step (.wait _ 500)
  have fired := noticed.step (@Step.fire _ 500 rfl rfl (by decide) (by decide))
  have run : Run (spawn {} 500 .empty 0) events _ := fired.step (.fail rfl failed)
  have ascending : (publications .empty events).Pairwise
      (fun earlier later => earlier.version < later.version) := by
    refine List.pairwise_pair.mpr ?_
    decide
  have keyed : CacheKeyed events := by
    intro version artifact time happens
    simp only [events, List.mem_cons, List.not_mem_nil, or_false, reduceCtorEq, false_or,
      Event.consult.injEq, Except.ok.injEq, Option.some.injEq] at happens
    obtain ⟨rfl, rfl, _⟩ := happens
    rfl
  have progress := (run_catches_up run ascending keyed).2 ⟨rfl, rfl, rfl, rfl⟩
  exact ⟨_, run, ascending, keyed, ⟨rfl, rfl, rfl, rfl⟩, rfl, progress⟩

end Process

end HomeVoice.Hub
