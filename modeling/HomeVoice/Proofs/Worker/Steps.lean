import HomeVoice.Hub.Worker

/-!
# The steps of the grammar worker

The worker waits at four places: for the cache when it starts, for the next thing to do, for a
grammar that is generated on another thread and for the cache to take that grammar in. While it
waits registries are published, requests come and time passes. A step is one of these, or what
the worker does between two of its waits. When several things are there to be done, any of them
may be the next.

What the store answers and at which time is part of the event, so nothing is assumed of it here.
-/

namespace HomeVoice.Hub

open Time (Timestamp)

/-- Where the worker stands. -/
inductive Phase where
  /-- It has not looked at any registry yet. -/
  | starting
  /-- The cache is asked for the grammar of the first registry. -/
  | consulting (snapshot : Registry)
  /-- A published registry, a request or the deadline comes next. -/
  | waiting
  /-- A grammar is generated, for a request or by itself. -/
  | generating (snapshot : Registry) (request : Option Nat)
  /-- The generated grammar is cached. -/
  | storing (snapshot : Registry) (artifact : Artifact) (request : Option Nat)
  | stopped

/-- An attempt to get a grammar for a registry, with the grammar if one was published. -/
structure Attempt where
  snapshot : Registry
  published : Option Artifact

/-- The worker with what it shares with those around it. -/
structure Process where
  worker : Worker
  phase : Phase
  /-- The registry that was published last. -/
  latest : Registry
  /-- The worker has not taken notice of that registry. -/
  unseen : Bool
  /-- The requests that wait, in the order in which they came. -/
  queue : List Nat
  /-- How many requests came so far; the next one has this number. -/
  requested : Nat
  /-- The clock, in milliseconds. -/
  now : Nat
  /-- All attempts, the last one first. -/
  attempts : List Attempt
  /-- What the requests were answered, the last answer first. -/
  answers : List (Nat × Except Error Artifact)

/-- What can happen. -/
inductive Event where
  | publish (registry : Registry)
  | request
  | wait (ms : Nat)
  | begin
  /-- The cache, asked for a version, gives its answer. -/
  | consult (version : UInt64) (answer : Except StorageError (Option Artifact)) (time : Timestamp)
  /-- The worker takes notice of a published registry. -/
  | notice
  /-- The worker takes up a request. -/
  | serve
  /-- The worker meets its deadline. -/
  | fire
  | generate (time : Timestamp)
  /-- The thread that generates is lost. -/
  | abort (time : Timestamp)
  /-- The cache took the grammar in or not, and the grammar is published. -/
  | store (kept : Bool) (time : Timestamp)
  | stop

/-- The registry that an event publishes. -/
def Event.registry? : Event → Option Registry
  | publish registry => some registry
  | _ => none

/-- The event needs neither an edit nor an answer of the store. -/
def Event.isInternal : Event → Bool
  | publish _ | consult _ _ _ | store _ _ => false
  | _ => true

/-- The registries that were published, in order: the first one and those of the events. -/
def publications (initial : Registry) (events : List Event) : List Registry :=
  initial :: events.filterMap Event.registry?

/-- The cached grammar that a starting worker takes: one with the right options. -/
def Worker.accepted (worker : Worker) (answer : Except StorageError (Option Artifact)) :
    Option Artifact :=
  answer.toOption.join.filter fun artifact => artifact.options = worker.options

theorem Worker.accepted_eq_some {worker : Worker} {answer : Except StorageError (Option Artifact)}
    {artifact : Artifact} (accepted : worker.accepted answer = some artifact) :
    answer = .ok (some artifact) ∧ artifact.options = worker.options := by
  rw [Worker.accepted] at accepted
  obtain ⟨found, matching⟩ := Option.filter_eq_some_iff.mp accepted
  cases answer with
  | error _ => simp [Except.toOption] at found
  | ok answer => exact ⟨by simpa [Except.toOption] using found, by simpa using matching⟩

/-- A starting worker publishes the grammar that it takes, or is to generate at once. -/
theorem Worker.start_eq (worker : Worker) (snapshot : Registry)
    (answer : Except StorageError (Option Artifact)) (now : Nat) (time : Timestamp) :
    worker.start snapshot answer now time =
      match worker.accepted answer with
      | some artifact => worker.publish artifact snapshot.validate time
      | none => { worker with deadline := some now } := by
  unfold start Worker.accepted
  cases answer with
  | error _ => rfl
  | ok found =>
    cases found with
    | none => rfl
    | some artifact =>
      by_cases same : artifact.options = worker.options <;>
        simp [Except.toOption, Option.filter, same]

@[simp] theorem Worker.start_isRunning (worker : Worker) (snapshot : Registry)
    (answer : Except StorageError (Option Artifact)) (now : Nat) (time : Timestamp) :
    (worker.start snapshot answer now time).isRunning = worker.isRunning := by
  rw [Worker.start_eq]
  cases worker.accepted answer <;> rfl

@[simp] theorem Worker.conclude_options (worker : Worker) (snapshot : Registry)
    (result : Except Error Artifact) (time : Timestamp) :
    (worker.conclude snapshot result time).options = worker.options := by
  cases result <;> rfl

@[simp] theorem Worker.conclude_debounce (worker : Worker) (snapshot : Registry)
    (result : Except Error Artifact) (time : Timestamp) :
    (worker.conclude snapshot result time).debounce = worker.debounce := by
  cases result <;> rfl

@[simp] theorem Worker.conclude_deadline (worker : Worker) (snapshot : Registry)
    (result : Except Error Artifact) (time : Timestamp) :
    (worker.conclude snapshot result time).deadline = worker.deadline := by
  cases result <;> rfl

/-- However an attempt ends, the worker goes on running. -/
@[simp] theorem Worker.conclude_isRunning (worker : Worker) (snapshot : Registry)
    (result : Except Error Artifact) (time : Timestamp) :
    (worker.conclude snapshot result time).isRunning = worker.isRunning := by
  cases result <;> rfl

namespace Process

/-- A worker that was just started. -/
def spawn (options : GrammarOptions) (debounce : Nat) (registry : Registry) (now : Nat) :
    Process where
  worker := { options, debounce }
  phase := .starting
  latest := registry
  unseen := true
  queue := []
  requested := 0
  now
  attempts := []
  answers := []

/-- A registry is published. -/
def publish (process : Process) (registry : Registry) : Process :=
  { process with latest := registry, unseen := true }

/-- A request comes. -/
def enqueue (process : Process) : Process :=
  { process with
    queue := process.queue ++ [process.requested]
    requested := process.requested + 1 }

/-- Answer a request that cannot be served any more. -/
def refuse (answers : List (Nat × Except Error Artifact)) (request : Nat) :
    List (Nat × Except Error Artifact) :=
  (request, .error (.integrity .generatorStopped)) :: answers

/-- The worker looks at the registry that was published last and goes on. -/
def look (process : Process) (worker : Worker) (phase : Phase) : Process :=
  { process with worker, phase, unseen := false }

/-- The worker as it is when nothing is planned. -/
def unplanned (process : Process) : Worker := { process.worker with deadline := none }

/-- The worker has the answer of the cache for the first registry. -/
def consult (process : Process) (snapshot : Registry)
    (answer : Except StorageError (Option Artifact)) (time : Timestamp) : Process :=
  { process with
    phase := .waiting
    worker := process.worker.start snapshot answer process.now time
    attempts := ((process.worker.accepted answer).map fun artifact =>
      ⟨snapshot, some artifact⟩).toList ++ process.attempts }

/-- An attempt ends, and the request for which it was made is answered. -/
def conclude (process : Process) (snapshot : Registry) (request : Option Nat)
    (result : Except Error Artifact) (time : Timestamp) : Process :=
  { process with
    phase := .waiting
    worker := process.worker.conclude snapshot result time
    attempts := ⟨snapshot, result.toOption⟩ :: process.attempts
    answers := (request.map (·, result)).toList ++ process.answers }

/-- The requests without an answer: the one that is being served and those that wait. -/
def unanswered (process : Process) : List Nat :=
  (match process.phase with
    | .generating _ (some request) | .storing _ _ (some request) => [request]
    | _ => []) ++ process.queue

/-- The worker stops, and nobody who waits gets a grammar. -/
def stop (process : Process) : Process :=
  { process with
    phase := .stopped
    worker := process.worker.stop
    queue := []
    answers := process.unanswered.foldl refuse process.answers }

/-- What one event makes of the worker and its surroundings. -/
inductive Step : Process → Event → Process → Prop where
  | publish (process : Process) (registry : Registry) :
      Step process (.publish registry) (process.publish registry)
  | request {process : Process} (running : process.phase ≠ .stopped) :
      Step process .request process.enqueue
  | refuse {process : Process} (stopped : process.phase = .stopped) :
      Step process .request
        { process with
          requested := process.requested + 1
          answers := Process.refuse process.answers process.requested }
  | wait (process : Process) (ms : Nat) :
      Step process (.wait ms) { process with now := process.now + ms }
  | begin {process : Process} (starting : process.phase = .starting) :
      Step process .begin (process.look process.worker (.consulting process.latest))
  | consult {process : Process} {snapshot : Registry} (consulting : process.phase = .consulting snapshot)
      (answer : Except StorageError (Option Artifact)) (time : Timestamp) :
      Step process (.consult snapshot.version answer time) (process.consult snapshot answer time)
  | notice {process : Process} (waiting : process.phase = .waiting) (unseen : process.unseen = true) :
      Step process .notice (process.look (process.worker.noticeEdit process.now) .waiting)
  | serve {process : Process} {request : Nat} {rest : List Nat} (waiting : process.phase = .waiting)
      (queued : process.queue = request :: rest) :
      Step process .serve
        { process.look process.unplanned (.generating process.latest (some request)) with
          queue := rest }
  /-- At the deadline the active grammar is that of the latest registry already. -/
  | skip {process : Process} {deadline : Nat} (waiting : process.phase = .waiting)
      (planned : process.worker.deadline = some deadline) (due : deadline ≤ process.now)
      (current : process.worker.isCurrent process.latest = true) :
      Step process .fire (process.look process.unplanned .waiting)
  | fire {process : Process} {deadline : Nat} (waiting : process.phase = .waiting)
      (planned : process.worker.deadline = some deadline) (due : deadline ≤ process.now)
      (stale : process.worker.isCurrent process.latest = false) :
      Step process .fire (process.look process.unplanned (.generating process.latest none))
  | generate {process : Process} {snapshot : Registry} {request : Option Nat} {artifact : Artifact}
      {time : Timestamp} (generating : process.phase = .generating snapshot request)
      (made : snapshot.generate process.worker.options time = .ok artifact) :
      Step process (.generate time) { process with phase := .storing snapshot artifact request }
  | fail {process : Process} {snapshot : Registry} {request : Option Nat} {error : Error}
      {time : Timestamp} (generating : process.phase = .generating snapshot request)
      (failed : snapshot.generate process.worker.options time = .error error) :
      Step process (.generate time) (process.conclude snapshot request (.error error) time)
  | abort {process : Process} {snapshot : Registry} {request : Option Nat}
      (generating : process.phase = .generating snapshot request) (time : Timestamp) :
      Step process (.abort time)
        (process.conclude snapshot request (.error (.integrity .generationAborted)) time)
  | store {process : Process} {snapshot : Registry} {artifact : Artifact} {request : Option Nat}
      (storing : process.phase = .storing snapshot artifact request) (kept : Bool)
      (time : Timestamp) :
      Step process (.store kept time) (process.conclude snapshot request (.ok artifact) time)
  | stop {process : Process} (running : process.phase ≠ .stopped) : Step process .stop process.stop

/-- What a sequence of events makes of a worker. -/
inductive Run (start : Process) : List Event → Process → Prop where
  | nil : Run start [] start
  | step {events : List Event} {process after : Process} {event : Event}
      (before : Run start events process) (step : Step process event after) :
      Run start (events ++ [event]) after

/-- Nothing that happens changes the options of the worker. -/
theorem Step.options {process after : Process} {event : Event} (step : Step process event after) :
    after.worker.options = process.worker.options := by
  cases step with
  | @consult snapshot consulting answer time =>
    show (process.worker.start snapshot answer process.now time).options = _
    rw [Worker.start_eq]
    cases process.worker.accepted answer <;> rfl
  | notice waiting unseen =>
    show (process.worker.noticeEdit process.now).options = _
    unfold Worker.noticeEdit
    split <;> rfl
  | fail generating failed => exact Worker.conclude_options ..
  | abort generating time => exact Worker.conclude_options ..
  | store storing kept time => exact Worker.conclude_options ..
  | _ => rfl

theorem Run.options {start process : Process} {events : List Event}
    (run : Run start events process) : process.worker.options = start.worker.options := by
  induction run with
  | nil => rfl
  | step before step ih => exact step.options.trans ih

theorem Run.trans {start middle process : Process} {earlier later : List Event}
    (first : Run start earlier middle) (second : Run middle later process) :
    Run start (earlier ++ later) process := by
  induction second with
  | nil => rwa [List.append_nil]
  | step before step ih =>
    rw [← List.append_assoc]
    exact ih.step step

theorem Run.cons {start middle process : Process} {event : Event} {later : List Event}
    (step : Step start event middle) (run : Run middle later process) :
    Run start (event :: later) process :=
  Run.trans (.step .nil step) run

theorem Run.uncons {start process : Process} {event : Event} {later : List Event}
    (run : Run start (event :: later) process) :
    ∃ middle, Step start event middle ∧ Run middle later process := by
  generalize course : event :: later = events at run
  induction run generalizing later with
  | nil => cases course
  | @step events process after last before step ih =>
    rcases List.eq_nil_or_concat later with rfl | ⟨between, final, rfl⟩
    · cases before with
      | nil =>
        cases course
        exact ⟨after, step, .nil⟩
      | step before _ =>
        have lengths := congrArg List.length course
        simp at lengths
    · rw [List.concat_eq_append, ← List.cons_append] at course
      obtain ⟨rfl, same⟩ := List.append_inj' course rfl
      cases same
      obtain ⟨middle, first, rest⟩ := ih rfl
      rw [List.concat_eq_append]
      exact ⟨middle, first, rest.step step⟩

end Process

end HomeVoice.Hub
