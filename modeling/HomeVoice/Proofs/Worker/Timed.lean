import HomeVoice.Proofs.Worker.Progress

/-!
# Runs of the worker on a clock

A run on a clock shows when the worker takes notice of an edit and when it begins to generate.
Nothing but a notice sets the deadline again, and what the worker took up before is older than the
latest registry as long as an edit is pending. Where no time passes while the worker has something
to do, a deadline that is set has not passed.
-/

namespace HomeVoice.Hub

open Time (Timestamp)

/-- What a run shows of the worker, with its moment. -/
inductive Mark where
  /-- It takes notice of an edit. -/
  | noticed (moment : Nat)
  /-- It begins to generate, for a request or by itself. -/
  | began (moment : Nat) (snapshot : Registry) (request : Option Nat)

namespace Mark

@[simp] def moment : Mark → Nat
  | noticed moment | began moment _ _ => moment

@[simp] def notice? : Mark → Option Nat
  | noticed moment => some moment
  | began _ _ _ => none

/-- The registry for which a generation begins. -/
@[simp] def snapshot? : Mark → Option Registry
  | noticed _ => none
  | began _ snapshot _ => some snapshot

end Mark

/-- The worker has yet to learn whether the cache has a grammar for it. -/
def Phase.isStarting : Phase → Bool
  | starting | consulting _ => true
  | waiting | generating _ _ | storing _ _ _ | stopped => false

/-- What an event shows. -/
def Event.mark? (event : Event) (after : Process) : Option Mark :=
  match event, after.phase with
  | .notice, _ => some (.noticed after.now)
  | .serve, .generating snapshot asker | .fire, .generating snapshot asker =>
    some (.began after.now snapshot asker)
  | _, _ => none

namespace Process

/-- A run with what it shows, in which an event happens only where it is allowed. -/
inductive Timed (allowed : Process → Event → Prop) (start : Process) :
    List Event → List Mark → Process → Prop where
  | nil : Timed allowed start [] [] start
  | step {events : List Event} {marks : List Mark} {process after : Process} {event : Event}
      (before : Timed allowed start events marks process) (step : Step process event after)
      (fits : allowed process event) :
      Timed allowed start (events ++ [event]) (marks ++ (event.mark? after).toList) after

/-- The worker has nothing to do for so many milliseconds. -/
def Rests (process : Process) (ms : Nat) : Prop :=
  match process.phase with
  | .starting => False
  | .waiting => process.unseen = false ∧ process.queue = [] ∧
      ∀ deadline, process.worker.deadline = some deadline → process.now + ms ≤ deadline
  | .consulting _ | .generating _ _ | .storing _ _ _ | .stopped => True

/-- No time passes while the worker has something to do. -/
def Prompt (process : Process) : Event → Prop
  | .wait ms => process.Rests ms
  | _ => True

variable {allowed : Process → Event → Prop} {options : GrammarOptions} {debounce : Nat}
  {start process after : Process} {events : List Event} {marks : List Mark} {event : Event}

theorem Timed.run (timed : Timed allowed start events marks process) :
    Run start events process := by
  induction timed with
  | nil => exact .nil
  | step before step fits ih => exact ih.step step

/-- A mark was shown by an event, and what was shown before it was shown before that event. -/
theorem Timed.split {earlier later : List Mark} {mark : Mark}
    (timed : Timed allowed start events marks process) (split : marks = earlier ++ mark :: later) :
    ∃ before event rest showing shown, events = before ++ event :: rest ∧
      Timed allowed start before earlier showing ∧ Step showing event shown ∧
      event.mark? shown = some mark := by
  induction timed generalizing later with
  | nil => simp at split
  | @step events marks process after event before step fits ih =>
    rcases List.eq_nil_or_concat later with rfl | ⟨between, final, rfl⟩
    · cases shown : event.mark? after with
      | none =>
        rw [shown, Option.toList_none, List.append_nil] at split
        obtain ⟨earlier, other, rest, showing, shown, rfl, found⟩ := ih split
        exact ⟨earlier, other, rest ++ [event], showing, shown, by simp, found⟩
      | some last =>
        rw [shown] at split
        obtain ⟨rfl, same⟩ := List.append_inj' split rfl
        cases same
        exact ⟨events, event, [], process, after, rfl, before, step, shown⟩
    · suffices ∃ between, marks = earlier ++ mark :: between by
        obtain ⟨_, split⟩ := this
        obtain ⟨earlier, other, rest, showing, shown, rfl, found⟩ := ih split
        exact ⟨earlier, other, rest ++ [event], showing, shown, by simp, found⟩
      cases shown : event.mark? after with
      | none => exact ⟨_, by simpa [shown] using split⟩
      | some last =>
        rw [shown, List.concat_eq_append, ← List.cons_append, ← List.append_assoc] at split
        exact ⟨between, (List.append_inj' split rfl).1⟩

/-- A generation that nobody requested begins at the deadline or after it, for the latest
registry. -/
theorem Step.began_inv {moment : Nat} {snapshot : Registry} (step : Step process event after)
    (shows : event.mark? after = some (.began moment snapshot none)) :
    event = .fire ∧ moment = process.now ∧ snapshot = process.latest ∧
      ∃ deadline, process.worker.deadline = some deadline ∧ deadline ≤ process.now := by
  cases step with
  | fire waiting planned due stale =>
    cases shows
    exact ⟨rfl, rfl, rfl, _, planned, due⟩
  | _ => cases shows

/-- The deadline is that of the last notice, unless nothing was shown so far. The worker has no
deadline but while it waits. -/
structure Scheduled (debounce : Nat) (marks : List Mark) (process : Process) : Prop where
  configured : process.worker.debounce = debounce
  running : process.phase ≠ .stopped → process.worker.isRunning = true
  waiting : ∀ deadline, process.worker.deadline = some deadline → process.phase = .waiting
  planned : ∀ deadline, process.worker.deadline = some deadline → marks = [] ∨
    ∃ front notice, marks = front ++ [.noticed notice] ∧ deadline = notice + debounce
  early : process.phase.isStarting = true → marks = [] ∧ process.attempts = []
  past : ∀ mark ∈ marks, mark.moment ≤ process.now
  ordered : marks.Pairwise fun earlier later => earlier.moment ≤ later.moment

theorem scheduled_spawn (initial : Registry) (now : Nat) :
    Scheduled debounce [] (spawn options debounce initial now) where
  configured := rfl
  running _ := rfl
  waiting := nofun
  planned := nofun
  early _ := ⟨rfl, rfl⟩
  past := nofun
  ordered := .nil

section Scheduled

variable (scheduled : Scheduled debounce marks process)
include scheduled

theorem Scheduled.deadline_eq_none (elsewhere : process.phase ≠ .waiting) :
    process.worker.deadline = none := by
  cases planned : process.worker.deadline with
  | none => rfl
  | some deadline => exact absurd (scheduled.waiting deadline planned) elsewhere

/-- The worker goes on with another phase and without a deadline. -/
theorem Scheduled.unplanned {phase : Phase} {worker : Worker} {attempts : List Attempt}
    (unplanned : worker.deadline = none) (configured : worker.debounce = process.worker.debounce)
    (running : phase ≠ .stopped → worker.isRunning = true)
    (early : phase.isStarting = true → marks = [] ∧ attempts = [])
    (unseen : Bool) (queue : List Nat) (answers : List (Nat × Except Error Artifact)) :
    Scheduled debounce marks
      { process with phase, worker, attempts, unseen, queue, answers } where
  configured := configured.trans scheduled.configured
  running := running
  waiting deadline planned := by
    rw [show worker.deadline = some deadline from planned] at unplanned
    cases unplanned
  planned deadline planned := by
    rw [show worker.deadline = some deadline from planned] at unplanned
    cases unplanned
  early := early
  past := scheduled.past
  ordered := scheduled.ordered

/-- Something is shown now, and a deadline is set only with a notice. -/
theorem Scheduled.shows {mark : Mark} {phase : Phase} {worker : Worker} (unseen : Bool)
    (queue : List Nat) (now : mark.moment = process.now)
    (configured : worker.debounce = process.worker.debounce)
    (running : worker.isRunning = true)
    (planned : ∀ deadline, worker.deadline = some deadline →
      phase = .waiting ∧ mark = .noticed process.now ∧ deadline = process.now + debounce)
    (late : phase.isStarting = false) :
    Scheduled debounce (marks ++ [mark]) { process with phase, worker, unseen, queue } where
  configured := configured.trans scheduled.configured
  running _ := running
  waiting deadline set := (planned deadline set).1
  planned deadline set := by
    obtain ⟨_, rfl, due⟩ := planned deadline set
    exact .inr ⟨marks, process.now, rfl, due⟩
  early := by
    intro starting
    cases late.symm.trans starting
  past := by
    intro other member
    rcases List.mem_append.mp member with before | here
    · exact scheduled.past other before
    · rw [List.mem_singleton.mp here]
      exact Nat.le_of_eq now
  ordered := by
    refine List.pairwise_append.mpr ⟨scheduled.ordered, List.pairwise_singleton .., ?_⟩
    intro other before last here
    rw [List.mem_singleton.mp here, now]
    exact scheduled.past other before

/-- The worker begins an attempt and plans nothing. -/
theorem Scheduled.attempts (running : process.worker.isRunning = true) (snapshot : Registry)
    (request : Option Nat) (queue : List Nat) :
    Scheduled debounce (marks ++ [.began process.now snapshot request])
      { process.look process.unplanned (.generating snapshot request) with queue } :=
  scheduled.shows _ _ rfl rfl running nofun rfl

end Scheduled

theorem Scheduled.conclude (scheduled : Scheduled debounce marks process)
    (elsewhere : process.phase ≠ .waiting) (running : process.phase ≠ .stopped)
    (snapshot : Registry) (request : Option Nat) (result : Except Error Artifact)
    (time : Timestamp) :
    Scheduled debounce marks (process.conclude snapshot request result time) := by
  refine scheduled.unplanned ?_ (Worker.conclude_debounce ..) ?_ ?_ ..
  · rw [Worker.conclude_deadline, scheduled.deadline_eq_none elsewhere]
  · intro _
    rw [Worker.conclude_isRunning, scheduled.running running]
  · exact nofun

/-- What the worker does with the answer of the cache: it goes on with its grammar, or it is to
generate at once. Nothing was shown so far. -/
theorem Scheduled.consult (scheduled : Scheduled debounce marks process) {snapshot : Registry}
    (consulting : process.phase = .consulting snapshot)
    (answer : Except StorageError (Option Artifact)) (time : Timestamp) :
    Scheduled debounce marks (process.consult snapshot answer time) := by
  rw [consult_eq]
  cases process.worker.accepted answer with
  | some artifact => exact scheduled.conclude (by simp [consulting]) (by simp [consulting]) ..
  | none =>
    exact
      { scheduled with
        running := fun _ => scheduled.running (by simp [consulting])
        waiting := fun _ _ => rfl
        planned := fun _ _ => .inl (scheduled.early (by rw [consulting]; rfl)).1
        early := nofun }

theorem Scheduled.silent (scheduled : Scheduled debounce marks process)
    (step : Step process event after) (silent : event.mark? after = none) :
    Scheduled debounce marks after := by
  cases step with
  | publish registry => exact { scheduled with }
  | request running => exact { scheduled with }
  | refuse stopped => exact { scheduled with }
  | wait ms =>
    exact
      { scheduled with
        past := fun mark member => Nat.le_add_right_of_le (scheduled.past mark member) }
  | begin starting =>
    refine scheduled.unplanned ?_ rfl ?_ ?_ ..
    · exact scheduled.deadline_eq_none (by simp [starting])
    · exact fun _ => scheduled.running (by simp [starting])
    · exact fun _ => scheduled.early (by rw [starting]; rfl)
  | consult consulting answer time => exact scheduled.consult consulting ..
  | notice waiting unseen => cases silent
  | serve waiting queued => cases silent
  | fire waiting planned due stale => cases silent
  | skip waiting planned due current =>
    refine scheduled.unplanned ?_ ?_ ?_ ?_ ..
    · rfl
    · rfl
    · exact fun _ => scheduled.running (by simp [waiting])
    · exact nofun
  | generate generating made =>
    refine scheduled.unplanned ?_ rfl ?_ ?_ ..
    · exact scheduled.deadline_eq_none (by simp [generating])
    · exact fun _ => scheduled.running (by simp [generating])
    · exact nofun
  | fail generating failed =>
    exact scheduled.conclude (by simp [generating]) (by simp [generating]) ..
  | abort generating time =>
    exact scheduled.conclude (by simp [generating]) (by simp [generating]) ..
  | store storing kept time => exact scheduled.conclude (by simp [storing]) (by simp [storing]) ..
  | stop running =>
    refine scheduled.unplanned ?_ ?_ ?_ ?_ ..
    · rfl
    · rfl
    · exact fun running => absurd rfl running
    · exact nofun

theorem Scheduled.step (scheduled : Scheduled debounce marks process)
    (step : Step process event after) :
    Scheduled debounce (marks ++ (event.mark? after).toList) after := by
  have silent := scheduled.silent step
  cases step with
  | notice waiting unseen =>
    have running := scheduled.running (by simp [waiting])
    rw [Worker.noticeEdit, if_pos running]
    refine scheduled.shows _ _ rfl rfl running ?_ rfl
    rintro deadline set
    cases set
    exact ⟨rfl, rfl, by rw [scheduled.configured]⟩
  | serve waiting queued => exact scheduled.attempts (scheduled.running (by simp [waiting])) ..
  | fire waiting planned due stale =>
    exact scheduled.attempts (scheduled.running (by simp [waiting])) ..
  | _ => exact (List.append_nil marks).symm ▸ silent rfl

theorem Timed.scheduled {initial : Registry} {now : Nat}
    (timed : Timed allowed (spawn options debounce initial now) events marks process) :
    Scheduled debounce marks process := by
  induction timed with
  | nil => exact scheduled_spawn ..
  | step before step fits ih => exact ih.step step

/-- The worker took a registry up. -/
inductive Taken (marks : List Mark) (process : Process) (registry : Registry) : Prop where
  | begun (shown : registry ∈ marks.filterMap Mark.snapshot?)
  | attempted {attempt : Attempt} (made : attempt ∈ process.attempts)
      (taken : attempt.snapshot = registry)
  | held (busy : process.phase.snapshot? = some registry)

theorem Taken.keep {registry : Registry} (known : Taken marks after registry)
    (attempts : after.attempts = process.attempts)
    (busy : after.phase.snapshot? = some registry → process.phase.snapshot? = some registry) :
    Taken marks process registry := by
  rcases known with begun | ⟨made, taken⟩ | held
  · exact .begun begun
  · exact .attempted (attempts ▸ made) taken
  · exact .held (busy held)

/-- An edit waits for the worker to take notice of it, or for the deadline. -/
def Pending (process : Process) : Prop :=
  process.unseen = true ∨ process.worker.deadline ≠ none

/-- The latest registry is no older than those that were taken up, and newer when an edit is
pending. -/
structure Ahead (marks : List Mark) (process : Process) : Prop where
  older : ∀ registry, Taken marks process registry → registry.version ≤ process.latest.version
  newer : process.Pending →
    ∀ registry, Taken marks process registry → registry.version < process.latest.version

theorem ahead_of_untaken (attempts : process.attempts = [])
    (free : process.phase.snapshot? = none) : Ahead [] process := by
  have untaken : ∀ registry, ¬ Taken [] process registry := by
    rintro registry (begun | ⟨made, _⟩ | held)
    · cases begun
    · rw [attempts] at made
      cases made
    · rw [free] at held
      cases held
  exact ⟨fun registry known => absurd known (untaken registry),
    fun _ registry known => absurd known (untaken registry)⟩

section Ahead

variable {shown : List Mark}

/-- Nothing is taken up. -/
theorem Ahead.keep (ahead : Ahead marks process) (latest : after.latest = process.latest)
    (kept : ∀ registry, Taken shown after registry → Taken marks process registry)
    (pending : after.Pending → process.Pending) : Ahead shown after where
  older registry known := latest ▸ ahead.older registry (kept registry known)
  newer waits registry known := latest ▸ ahead.newer (pending waits) registry (kept registry known)

/-- The worker looks at the latest registry, and takes it up or not. -/
theorem Ahead.look (ahead : Ahead marks process) {worker : Worker} {phase : Phase}
    (queue : List Nat)
    (marked : ∀ registry ∈ shown.filterMap Mark.snapshot?,
      registry ∈ marks.filterMap Mark.snapshot? ∨ registry = process.latest)
    (held : ∀ registry, phase.snapshot? = some registry → registry = process.latest)
    (unplanned : worker.deadline = none) :
    Ahead shown { process.look worker phase with queue } where
  older := by
    rintro registry (begun | ⟨made, taken⟩ | busy)
    · rcases marked registry begun with before | rfl
      · exact ahead.older registry (.begun before)
      · exact UInt64.le_refl _
    · exact ahead.older registry (.attempted made taken)
    · rw [held registry busy]
      exact UInt64.le_refl _
  newer waits := by
    rcases waits with unseen | planned
    · cases unseen
    · exact absurd unplanned planned

theorem Ahead.conclude (ahead : Ahead marks process) {snapshot : Registry}
    (busy : process.phase.snapshot? = some snapshot) (request : Option Nat)
    (result : Except Error Artifact) (time : Timestamp) :
    Ahead marks (process.conclude snapshot request result time) := by
  refine ahead.keep rfl ?_ ?_
  · rintro registry (begun | ⟨made, taken⟩ | held)
    · exact .begun begun
    · rcases List.mem_cons.mp made with rfl | before
      · exact .held (busy.trans (congrArg some taken))
      · exact .attempted before taken
    · cases held
  · rintro (unseen | planned)
    · exact .inl unseen
    · exact .inr (Worker.conclude_deadline .. ▸ planned)

theorem Ahead.publish (ahead : Ahead marks process) {registry : Registry}
    (newer : process.latest.version < registry.version) :
    Ahead marks (process.publish registry) := by
  have strict : ∀ other, Taken marks (process.publish registry) other →
      other.version < registry.version := by
    intro other known
    exact UInt64.lt_of_le_of_lt (ahead.older other (known.keep rfl id)) newer
  exact ⟨fun other known => UInt64.le_of_lt (strict other known), fun _ => strict⟩

theorem Ahead.step (ahead : Ahead marks process) (scheduled : Scheduled debounce marks process)
    (step : Step process event after)
    (fresh : ∀ registry, event = .publish registry → process.latest.version < registry.version) :
    Ahead (marks ++ (event.mark? after).toList) after := by
  have quiet : Ahead marks after → event.mark? after = none →
      Ahead (marks ++ (event.mark? after).toList) after := by
    intro ahead silent
    rwa [silent, Option.toList_none, List.append_nil]
  have began : ∀ request, ∀ registry ∈ List.filterMap Mark.snapshot?
      (marks ++ [.began process.now process.latest request]),
      registry ∈ marks.filterMap Mark.snapshot? ∨ registry = process.latest := by
    intro request registry member
    rw [List.filterMap_append] at member
    exact (List.mem_append.mp member).imp_right List.mem_singleton.mp
  cases step with
  | publish registry => exact quiet (ahead.publish (fresh registry rfl)) rfl
  | request running => exact quiet (ahead.keep rfl (fun _ known => known.keep rfl id) id) rfl
  | refuse stopped => exact quiet (ahead.keep rfl (fun _ known => known.keep rfl id) id) rfl
  | wait ms => exact quiet (ahead.keep rfl (fun _ known => known.keep rfl id) id) rfl
  | begin starting =>
    refine quiet (ahead.look process.queue (fun _ => .inl) ?_ ?_) rfl
    · exact fun _ held => (Option.some.inj held).symm
    · exact scheduled.deadline_eq_none (by simp [starting])
  | @consult snapshot consulting answer time =>
    refine quiet ?_ rfl
    rw [consult_eq]
    cases process.worker.accepted answer with
    | some artifact => exact ahead.conclude (by rw [consulting]; rfl) ..
    | none =>
      -- Nothing was taken up but the registry that is held, and that one is given back.
      obtain ⟨rfl, attempts⟩ := scheduled.early (by rw [consulting]; rfl)
      exact ahead_of_untaken attempts rfl
  | notice waiting unseen =>
    refine ahead.keep rfl ?_ fun _ => .inl unseen
    rintro registry (begun | ⟨made, taken⟩ | held)
    · rw [List.filterMap_append] at begun
      exact .begun ((List.mem_append.mp begun).resolve_right List.not_mem_nil)
    · exact .attempted made taken
    · cases held
  | serve waiting queued =>
    refine ahead.look _ (began _) ?_ rfl
    exact fun _ held => (Option.some.inj held).symm
  | fire waiting planned due stale =>
    refine ahead.look process.queue (began _) ?_ rfl
    exact fun _ held => (Option.some.inj held).symm
  | skip waiting planned due current =>
    exact quiet (ahead.look process.queue (fun _ => .inl) nofun rfl) rfl
  | generate generating made =>
    refine quiet (ahead.keep rfl ?_ id) rfl
    exact fun registry known => known.keep rfl (by rw [generating]; exact id)
  | fail generating failed => exact quiet (ahead.conclude (by rw [generating]; rfl) ..) rfl
  | abort generating time => exact quiet (ahead.conclude (by rw [generating]; rfl) ..) rfl
  | store storing kept time => exact quiet (ahead.conclude (by rw [storing]; rfl) ..) rfl
  | stop running =>
    refine quiet (ahead.keep rfl ?_ ?_) rfl
    · exact fun registry known => known.keep rfl nofun
    · rintro (unseen | planned)
      · exact .inl unseen
      · exact absurd rfl planned

theorem Timed.ahead {initial : Registry} {now : Nat}
    (timed : Timed allowed (spawn options debounce initial now) events marks process)
    (ascending : (publications initial events).Pairwise fun earlier later =>
      earlier.version < later.version) : Ahead marks process := by
  induction timed with
  | nil => exact ahead_of_untaken rfl rfl
  | @step events marks process after event before step fits ih =>
    have earlier := ascending.sublist (publications_sublist initial events [event])
    refine (ih earlier).step before.scheduled step ?_
    exact fun _ published => latest_lt_of_publish before.run ascending published

end Ahead

/-- A deadline that is set has not passed, if no time passes while the worker has something to
do. -/
theorem Timed.punctual {initial : Registry} {now : Nat}
    (timed : Timed allowed (spawn options debounce initial now) events marks process)
    (prompt : ∀ process ms, allowed process (.wait ms) → process.Rests ms) :
    ∀ deadline, process.worker.deadline = some deadline → process.now ≤ deadline := by
  induction timed with
  | nil => exact nofun
  | @step events marks process after event before step fits ih =>
    have scheduled := before.scheduled
    intro deadline planned
    cases step with
    | wait ms =>
      have waiting := scheduled.waiting deadline planned
      have rests := prompt _ _ fits
      rw [Rests, waiting] at rests
      exact rests.2.2 deadline planned
    | @consult snapshot consulting answer time =>
      have unplanned := scheduled.deadline_eq_none (by simp [consulting])
      rw [consult_eq] at planned ⊢
      cases accepted : process.worker.accepted answer with
      | some artifact => cases (accepted ▸ planned).symm.trans unplanned
      | none =>
        cases (accepted ▸ planned)
        exact Nat.le_refl _
    | notice waiting unseen =>
      rw [Worker.noticeEdit, if_pos (scheduled.running (by simp [waiting]))] at planned
      cases planned
      exact Nat.le_add_right ..
    | serve waiting queued => cases planned
    | fire waiting planned due stale => cases planned
    | skip waiting planned due current => cases planned
    | stop running => cases planned
    | _ => exact ih deadline planned

/-- While a notice is the last that was shown, the worker waits for its deadline. -/
theorem Timed.armed {initial : Registry} {now : Nat}
    (timed : Timed allowed (spawn options debounce initial now) events marks process)
    (ascending : (publications initial events).Pairwise fun earlier later =>
      earlier.version < later.version)
    (keyed : CacheKeyed events) (running : process.phase ≠ .stopped) {front : List Mark}
    {notice : Nat} (last : marks = front ++ [.noticed notice]) :
    process.worker.deadline = some (notice + debounce) := by
  induction timed generalizing front notice with
  | nil => simp at last
  | @step events marks process after event before step fits ih =>
    have scheduled := before.scheduled
    replace ascending := ascending.sublist (publications_sublist initial events [event])
    replace keyed : CacheKeyed events := fun version artifact time member =>
      keyed version artifact time (List.mem_append_left _ member)
    have armed : process.phase ≠ .stopped → marks = front ++ [.noticed notice] →
        process.worker.deadline = some (notice + debounce) ∧ process.phase = .waiting := by
      intro running last
      have planned := ih ascending keyed running last
      exact ⟨planned, scheduled.waiting _ planned⟩
    have silent : event.mark? after = none → marks = front ++ [.noticed notice] := by
      intro silent
      rwa [silent, Option.toList_none, List.append_nil] at last
    cases step with
    | notice waiting unseen =>
      obtain ⟨_, same⟩ := List.append_inj' last rfl
      cases same
      rw [Worker.noticeEdit, if_pos (scheduled.running (by simp [waiting]))]
      exact congrArg (some <| process.now + ·) scheduled.configured
    | serve waiting queued => cases (List.append_inj' last rfl).2
    | fire waiting planned due stale => cases (List.append_inj' last rfl).2
    | skip waiting planned due current =>
      have coherent := coherent_of_run before.run ascending (fun _ member => member) keyed
      obtain ⟨attempt, rest, attempts, version⟩ := coherent.attempted_of_isCurrent current
      have made : Taken marks process attempt.snapshot := .attempted (by simp [attempts]) rfl
      have newer := (before.ahead ascending).newer (.inr (by simp [planned])) _ made
      exact absurd (version ▸ newer) (UInt64.lt_irrefl _)
    | publish registry => exact (armed running (silent rfl)).1
    | request running => exact (armed running (silent rfl)).1
    | wait ms => exact (armed running (silent rfl)).1
    | refuse stopped => exact absurd stopped running
    | stop stopping => exact absurd rfl running
    | begin elsewhere | consult elsewhere | generate elsewhere | fail elsewhere
    | abort elsewhere | store elsewhere =>
      have waiting := (armed (by simp [elsewhere]) (silent rfl)).2
      cases elsewhere.symm.trans waiting

end Process

end HomeVoice.Hub
