import HomeVoice.Proofs.Worker.Serving

/-!
# A requested grammar takes in every earlier edit

Requests wait in the order in which they come, and the worker looks at the latest registry when it
takes one up. So the grammar with which a request is answered is that of a registry that is no
older than any published before the request came, however edits, deadlines and other requests come
in between. A request that the worker does not get to is answered when the worker stops.
-/

namespace HomeVoice.Hub

open Time (Timestamp)

/-- The request that the worker serves. -/
def Phase.request? : Phase → Option Nat
  | generating _ request | storing _ _ request => request
  | starting | consulting _ | waiting | stopped => none

/-- The answer to a request that the worker does not get to. -/
abbrev unserved : Except Error Artifact := .error (.integrity .generatorStopped)

namespace Process

theorem unanswered_eq (process : Process) :
    process.unanswered = process.phase.request?.toList ++ process.queue := by
  unfold unanswered Phase.request?
  cases process.phase with
  | generating snapshot request => cases request <;> rfl
  | storing snapshot artifact request => cases request <;> rfl
  | _ => rfl

theorem foldl_refuse (requests : List Nat) (answers : List (Nat × Except Error Artifact)) :
    requests.foldl refuse answers = (requests.map (·, unserved)).reverse ++ answers := by
  induction requests generalizing answers with
  | nil => rfl
  | cons request rest ih =>
    rw [List.foldl_cons, ih, refuse, List.map_cons, List.reverse_cons, List.append_assoc]
    rfl

variable {options : GrammarOptions} {process after : Process} {event : Event}

/-- The requests that were answered, in that order, and then those without an answer are all
requests in the order in which they came, each once. A worker that has stopped leaves none without
an answer. -/
structure InOrder (process : Process) : Prop where
  order : process.answers.reverse.map Prod.fst ++ process.unanswered = List.range process.requested
  settled : process.phase = .stopped → process.unanswered = []

theorem inOrder_spawn (debounce : Nat) (initial : Registry) (now : Nat) :
    (spawn options debounce initial now).InOrder := ⟨rfl, nofun⟩

/-- The worker goes from one phase to another with the same requests. -/
theorem InOrder.pass (ordered : process.InOrder) (answers : after.answers = process.answers)
    (requested : after.requested = process.requested)
    (unanswered : after.unanswered = process.unanswered) (running : after.phase ≠ .stopped) :
    after.InOrder where
  order := by
    rw [answers, requested, unanswered]
    exact ordered.order
  settled stopped := absurd stopped running

/-- The request that is served is answered. -/
theorem InOrder.conclude (ordered : process.InOrder) {snapshot : Registry} {request : Option Nat}
    (serving : process.phase.request? = request) (result : Except Error Artifact)
    (time : Timestamp) : (process.conclude snapshot request result time).InOrder where
  order := by
    have order := ordered.order
    rw [unanswered_eq, serving] at order
    show ((request.map (·, result)).toList ++ process.answers).reverse.map Prod.fst ++
      process.queue = List.range process.requested
    rw [← order]
    cases request <;> simp
  settled := nofun

theorem Step.inOrder (step : Step process event after) (ordered : process.InOrder) :
    after.InOrder := by
  cases step with
  | publish registry => exact { ordered with }
  | wait ms => exact { ordered with }
  | request running =>
    refine ⟨?_, fun stopped => absurd stopped running⟩
    rw [unanswered_eq]
    show process.answers.reverse.map Prod.fst ++
      (process.phase.request?.toList ++ (process.queue ++ [process.requested])) = _
    rw [← List.append_assoc _ process.queue, ← unanswered_eq, ← List.append_assoc, ordered.order]
    exact List.range_succ.symm
  | refuse stopped =>
    have order := ordered.order
    have settled := ordered.settled stopped
    rw [settled, List.append_nil] at order
    refine ⟨?_, fun _ => settled⟩
    show (Process.refuse process.answers process.requested).reverse.map Prod.fst ++
      process.unanswered = _
    rw [settled, List.append_nil, Process.refuse, List.reverse_cons, List.map_append, order]
    exact List.range_succ.symm
  | begin starting =>
    refine ordered.pass rfl rfl ?_ nofun
    rw [unanswered_eq, unanswered_eq, starting]
    rfl
  | consult consulting answer time =>
    refine ordered.pass rfl rfl ?_ nofun
    rw [unanswered_eq, unanswered_eq, consulting]
    rfl
  | notice waiting unseen =>
    refine ordered.pass rfl rfl ?_ (by simp [look])
    rw [unanswered_eq, unanswered_eq, waiting]
    rfl
  | serve waiting queued =>
    refine ordered.pass rfl rfl ?_ nofun
    rw [unanswered_eq, unanswered_eq, waiting, queued]
    rfl
  | skip waiting planned due current =>
    refine ordered.pass rfl rfl ?_ nofun
    rw [unanswered_eq, unanswered_eq, waiting]
    rfl
  | fire waiting planned due stale =>
    refine ordered.pass rfl rfl ?_ nofun
    rw [unanswered_eq, unanswered_eq, waiting]
    rfl
  | generate generating made =>
    refine ordered.pass rfl rfl ?_ nofun
    rw [unanswered_eq, unanswered_eq, generating]
    rfl
  | fail generating failed => exact ordered.conclude (by rw [generating]; rfl) ..
  | abort generating time => exact ordered.conclude (by rw [generating]; rfl) ..
  | store storing kept time => exact ordered.conclude (by rw [storing]; rfl) ..
  | stop running =>
    refine ⟨?_, fun _ => rfl⟩
    refine Eq.trans ?_ ordered.order
    show (process.unanswered.foldl Process.refuse process.answers).reverse.map Prod.fst ++ [] = _
    rw [foldl_refuse, List.append_nil]
    simp [Function.comp_def]

theorem Run.inOrder {start : Process} {events : List Event} (run : Run start events process)
    (ordered : start.InOrder) : process.InOrder := by
  induction run with
  | nil => exact ordered
  | step before step ih => exact step.inOrder ih

/-- An answer that was given stays. -/
theorem Step.answers (step : Step process event after) :
    ∃ given, after.answers = given ++ process.answers := by
  cases step with
  | refuse stopped => exact ⟨[_], rfl⟩
  | fail generating failed => exact ⟨_, rfl⟩
  | abort generating time => exact ⟨_, rfl⟩
  | store storing kept time => exact ⟨_, rfl⟩
  | stop running => exact ⟨_, foldl_refuse ..⟩
  | _ => exact ⟨[], rfl⟩

/-- No request has two answers, and none that has one waits for another. -/
theorem InOrder.unique (ordered : process.InOrder) {request : Nat} {result : Except Error Artifact}
    (answered : (request, result) ∈ process.answers) :
    request ∉ process.unanswered ∧
      ∀ other, (request, other) ∈ process.answers → other = result := by
  have distinct : (process.answers.reverse.map Prod.fst ++ process.unanswered).Nodup :=
    ordered.order ▸ List.nodup_range
  obtain ⟨once, _, apart⟩ := List.nodup_append.mp distinct
  constructor
  · intro waits
    refine apart request ?_ request waits rfl
    exact List.mem_map.mpr ⟨_, List.mem_reverse.mpr answered, rfl⟩
  · intro other also
    have same := List.inj_on_of_nodup_map once (List.mem_reverse.mpr also)
      (List.mem_reverse.mpr answered) rfl
    exact congrArg Prod.snd same

/-- How the attempt ended that was made for a request from the registry which the worker took up
with it. A grammar that was made is active when the request is answered; otherwise the grammar that
served before still does. -/
inductive Verdict (options : GrammarOptions) (taken : Process) (event : Event) (given : Process) :
    Except Error Artifact → Prop where
  | made {artifact : Artifact} {time : Timestamp}
      (generated : taken.latest.generate options time = .ok artifact)
      (active : given.worker.artifact = some artifact) :
      Verdict options taken event given (.ok artifact)
  | failed {error : Error} (failing : ∀ time, taken.latest.generate options time = .error error)
      (kept : given.worker.artifact = taken.worker.artifact) :
      Verdict options taken event given (.error error)
  | aborted {time : Timestamp} (lost : event = .abort time)
      (kept : given.worker.artifact = taken.worker.artifact) :
      Verdict options taken event given (.error (.integrity .generationAborted))

/-- How a request came to its answer in the events after it. -/
inductive Answered (options : GrammarOptions) (known : List Registry) (asked : Process)
    (events : List Event) (process : Process) (result : Except Error Artifact) : Prop where
  /-- The worker took it up with a registry that is no older than the known ones. -/
  | served {before between later : List Event} {event : Event} {taken giving given : Process}
      (reached : Run asked (.request :: before) taken)
      (fresh : ∀ registry ∈ known, registry.version ≤ taken.latest.version)
      (attempt : Run taken (.serve :: between) giving)
      (step : Step giving event given)
      (answer : given.answers = (asked.requested, result) :: giving.answers)
      (verdict : Verdict options taken event given result)
      (onwards : Run given later process)
      (course : events = before ++ .serve :: between ++ event :: later)
  /-- The worker stopped before it had an answer. -/
  | stopped {before later : List Event} {last given : Process}
      (reached : Run asked (.request :: before) last)
      (waiting : asked.requested ∈ last.unanswered)
      (step : Step last .stop given)
      (onwards : Run given later process)
      (course : events = before ++ .stop :: later)
      (refused : result = unserved)
  /-- The worker had stopped already. -/
  | late (stopped : asked.phase = .stopped) (refused : result = unserved)

/-- The worker makes an attempt for a request. -/
inductive Underway (options : GrammarOptions) (known : List Registry) (asked : Process)
    (events : List Event) (process : Process) : Prop where
  | intro {before between : List Event} {taken : Process}
      (reached : Run asked (.request :: before) taken)
      (fresh : ∀ registry ∈ known, registry.version ≤ taken.latest.version)
      (attempt : Run taken (.serve :: between) process)
      (course : events = before ++ .serve :: between)
      (phase : process.phase = .generating taken.latest (some asked.requested) ∨
        ∃ artifact time, process.phase = .storing taken.latest artifact (some asked.requested) ∧
          taken.latest.generate options time = .ok artifact)
      (kept : process.worker.artifact = taken.worker.artifact)

/-- Where a request is in the events after it. -/
inductive Course (options : GrammarOptions) (known : List Registry) (asked : Process)
    (events : List Event) (process : Process) : Prop where
  | queued (waits : asked.requested ∈ process.queue)
  | underway (attempt : Underway options known asked events process)
  | done {result : Except Error Artifact} (given : (asked.requested, result) ∈ process.answers)
      (answered : Answered options known asked events process result)

section Course

variable {known : List Registry} {asked : Process} {events : List Event}

theorem Answered.step {result : Except Error Artifact}
    (answered : Answered options known asked events process result)
    (step : Step process event after) :
    Answered options known asked (events ++ [event]) after result := by
  cases answered with
  | served reached fresh attempt answering answer verdict onwards course =>
    refine .served reached fresh attempt answering answer verdict (onwards.step step) ?_
    rw [course, List.append_assoc, List.cons_append]
  | stopped reached waiting stopping onwards course refused =>
    refine .stopped reached waiting stopping (onwards.step step) ?_ refused
    rw [course, List.append_assoc, List.cons_append]
  | late stopped refused => exact .late stopped refused

theorem Course.step_done {result : Except Error Artifact}
    (given : (asked.requested, result) ∈ process.answers)
    (answered : Answered options known asked events process result)
    (step : Step process event after) : Course options known asked (events ++ [event]) after := by
  obtain ⟨more, answers⟩ := step.answers
  exact .done (answers ▸ List.mem_append_right more given) (answered.step step)

/-- A worker that stops answers every request that waits. -/
theorem unserved_of_stop (step : Step process .stop after) {request : Nat}
    (waits : request ∈ process.unanswered) : (request, unserved) ∈ after.answers := by
  cases step with
  | stop running =>
    show _ ∈ process.unanswered.foldl refuse process.answers
    rw [foldl_refuse]
    simp [waits]

theorem Course.step_stop (run : Run asked (.request :: events) process)
    (waits : asked.requested ∈ process.unanswered) (step : Step process .stop after) :
    Course options known asked (events ++ [.stop]) after :=
  .done (unserved_of_stop step waits) (.stopped run waits step .nil rfl rfl)

theorem Underway.request (underway : Underway options known asked events process) :
    process.phase.request? = some asked.requested := by
  obtain ⟨_, _, _, _, phase | ⟨_, _, phase, _⟩, _⟩ := underway <;> rw [phase] <;> rfl

/-- The attempt for a request goes on while other things happen. -/
theorem Underway.aside (underway : Underway options known asked events process)
    (step : Step process event after) (phase : after.phase = process.phase)
    (worker : after.worker = process.worker) :
    Underway options known asked (events ++ [event]) after := by
  obtain @⟨_, between, taken, reached, fresh, attempt, course, stands, kept⟩ := underway
  have longer : Run taken (.serve :: (between ++ [event])) after := attempt.step step
  refine ⟨reached, fresh, longer, ?_, phase ▸ stands, worker ▸ kept⟩
  rw [course, List.append_assoc, List.cons_append]

theorem Underway.step (underway : Underway options known asked events process)
    (run : Run asked (.request :: events) process) (configured : process.worker.options = options)
    (step : Step process event after) : Course options known asked (events ++ [event]) after := by
  have request := underway.request
  cases step with
  | publish registry => exact .underway (underway.aside (.publish ..) rfl rfl)
  | wait ms => exact .underway (underway.aside (.wait ..) rfl rfl)
  | request running => exact .underway (underway.aside (.request running) rfl rfl)
  | stop running =>
    refine Course.step_stop run ?_ (.stop running)
    rw [unanswered_eq, request]
    exact List.mem_cons_self
  | @generate snapshot request artifact time generating made =>
    obtain @⟨_, between, taken, reached, fresh, attempt, course, phase | ⟨_, _, phase, _⟩, kept⟩ :=
      underway
    all_goals cases phase.symm.trans generating
    have longer : Run taken (.serve :: (between ++ [.generate time])) _ :=
      attempt.step (.generate generating made)
    refine .underway ⟨reached, fresh, longer, ?_, .inr ⟨_, _, rfl, configured ▸ made⟩, kept⟩
    rw [course, List.append_assoc, List.cons_append]
  | fail generating failed =>
    obtain ⟨reached, fresh, attempt, course, phase | ⟨_, _, phase, _⟩, kept⟩ := underway
    all_goals cases phase.symm.trans generating
    refine .done List.mem_cons_self (.served reached fresh attempt (.fail generating failed) rfl
      (.failed ?_ kept) .nil (by rw [course]))
    exact configured ▸ Registry.generate_error failed
  | abort generating time =>
    obtain ⟨reached, fresh, attempt, course, phase | ⟨_, _, phase, _⟩, kept⟩ := underway
    all_goals cases phase.symm.trans generating
    exact .done List.mem_cons_self (.served reached fresh attempt (.abort generating time) rfl
      (.aborted rfl kept) .nil (by rw [course]))
  | store storing took time =>
    obtain ⟨reached, fresh, attempt, course, phase | ⟨_, _, phase, made⟩, kept⟩ := underway
    all_goals cases phase.symm.trans storing
    exact .done List.mem_cons_self (.served reached fresh attempt (.store storing took time) rfl
      (.made made rfl) .nil (by rw [course]))
  | refuse elsewhere | begin elsewhere | consult elsewhere | notice elsewhere | serve elsewhere
  | skip elsewhere | fire elsewhere =>
    rw [elsewhere] at request
    cases request

/-- A request that waits is taken up in its turn. -/
theorem Course.step_queued (waits : asked.requested ∈ process.queue)
    (run : Run asked (.request :: events) process) (ordered : process.InOrder)
    (fresh : ∀ registry ∈ known, registry.version ≤ process.latest.version)
    (step : Step process event after) : Course options known asked (events ++ [event]) after := by
  have unanswered : asked.requested ∈ process.unanswered := by
    rw [unanswered_eq]
    exact List.mem_append_right _ waits
  cases step with
  | request running => exact .queued (List.mem_append_left _ waits)
  | refuse stopped =>
    rw [ordered.settled stopped] at unanswered
    cases unanswered
  | serve waiting queued =>
    rw [queued] at waits
    rcases List.mem_cons.mp waits with rfl | waits
    · exact .underway ⟨run, fresh, .step .nil (.serve waiting queued), rfl, .inl rfl, rfl⟩
    · exact .queued waits
  | stop running => exact Course.step_stop run unanswered (.stop running)
  | _ => exact .queued waits

/-- In every state of a run after a request: it waits, an attempt is made for it or it has its
answer. -/
theorem course_of_run {debounce now : Nat} {initial : Registry} {earlier : List Event}
    (reached : Run (spawn options debounce initial now) earlier asked)
    {queued : Process} (request : Step asked .request queued) (run : Run queued events process)
    (ascending : (publications initial (earlier ++ .request :: events)).Pairwise fun older newer =>
      older.version < newer.version) :
    Course options (publications initial earlier) asked events process := by
  induction run with
  | nil =>
    cases request with
    | request running => exact .queued (List.mem_append_right _ List.mem_cons_self)
    | refuse stopped => exact .done List.mem_cons_self (.late stopped rfl)
  | @step events process after event before step ih =>
    have run : Run asked (.request :: events) process := .cons request before
    have whole := reached.trans run
    rw [← List.cons_append, ← List.append_assoc] at ascending
    replace ascending := ascending.sublist (publications_sublist initial _ [event])
    cases ih ascending with
    | queued waits =>
      refine Course.step_queued waits run (whole.inOrder (inOrder_spawn ..)) ?_ step
      intro registry known
      exact version_le_of_getLast? ascending (run_latest whole)
        ((publications_sublist ..).subset known)
    | underway attempt => exact attempt.step run whole.options step
    | done given answered => exact Course.step_done given answered step

end Course

/-- Requests have their answers one by one in the order in which they came. An answer is that of an
attempt for a registry no older than any published before the request, unless the worker stopped,
and a worker that stops answers all those who wait. -/
theorem run_answers_requests {debounce now : Nat} {initial : Registry} {earlier later : List Event}
    {asked : Process} (reached : Run (spawn options debounce initial now) earlier asked)
    (run : Run asked (.request :: later) process)
    (ascending : (publications initial (earlier ++ .request :: later)).Pairwise fun older newer =>
      older.version < newer.version) :
    process.InOrder ∧
      (∀ result, (asked.requested, result) ∈ process.answers →
        Answered options (publications initial earlier) asked later process result) ∧
      ∀ stopped, Step process .stop stopped →
        ∀ request ∈ process.unanswered, (request, unserved) ∈ stopped.answers := by
  have ordered := (reached.trans run).inOrder (inOrder_spawn ..)
  refine ⟨ordered, ?_, fun _ step _ waits => unserved_of_stop step waits⟩
  intro result answered
  have unique := ordered.unique answered
  obtain ⟨queued, request, run⟩ := run.uncons
  cases course_of_run reached request run ascending with
  | queued waits =>
    refine absurd ?_ unique.1
    rw [unanswered_eq]
    exact List.mem_append_right _ waits
  | underway attempt =>
    refine absurd ?_ unique.1
    rw [unanswered_eq, attempt.request]
    exact List.mem_cons_self
  | done given answered => exact unique.2 _ given ▸ answered

/-- A request that comes right after an edit, before the worker took notice of it, is answered with
the grammar of the edited registry. -/
theorem run_answers_requests_rooms :
    let earlier : List Event := [.begin, .consult 0 (.ok none) ⟨0, 0⟩]
    let later : List Event := [.serve, .generate ⟨0, 0⟩, .store true ⟨0, 0⟩]
    ∃ registry artifact asked process, Registry.rooms = .ok registry ∧
      Run (spawn {} 500 .empty 0) (earlier ++ [.publish registry]) asked ∧
      Run asked (.request :: later) process ∧ process.InOrder ∧
      process.answers = [(0, .ok artifact)] ∧ artifact.sourceVersion = 7 ∧
      Answered {} [.empty, registry] asked later process (.ok artifact) := by
  intro earlier later
  have parts : (Registry.rooms.toOption.bind fun registry =>
      (registry.generate {} ⟨0, 0⟩).toOption.map fun _ => registry.version) = some 7 := by
    decide +kernel
  obtain ⟨registry, restored, parts⟩ := Option.bind_eq_some_iff.mp parts
  obtain ⟨artifact, made, version⟩ := exists_of_toOption_map parts
  let begun := (spawn {} 500 .empty 0).look (spawn {} 500 .empty 0).worker (.consulting .empty)
  have consulted : Run (spawn {} 500 .empty 0) earlier _ :=
    .step (.step .nil (.begin rfl)) (@Step.consult begun .empty rfl _ _)
  have reached := consulted.step (.publish _ registry)
  have requested := (@Run.nil ((begun.consult .empty (.ok none) ⟨0, 0⟩).publish registry)).step
    (.request nofun)
  have served := requested.step (@Step.serve _ 0 [] rfl rfl)
  have run : Run _ (.request :: later) _ :=
    (served.step (.generate rfl made)).step (.store rfl true ⟨0, 0⟩)
  have ascending : (publications .empty ((earlier ++ [.publish registry]) ++
      .request :: later)).Pairwise fun older newer => older.version < newer.version := by
    refine List.pairwise_map.mp ?_
    show [0, registry.version].Pairwise (· < ·)
    rw [version]
    decide
  obtain ⟨ordered, answered, _⟩ := run_answers_requests reached run ascending
  exact ⟨registry, artifact, _, _, toOption_eq_some.mp restored, reached, run, ordered, rfl,
    (Registry.generate_sourceVersion made).trans version, answered _ List.mem_cons_self⟩

end Process

end HomeVoice.Hub
