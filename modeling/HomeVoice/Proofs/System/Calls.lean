import HomeVoice.Proofs.System.Steps

/-!
# The calls of the hub are runs of the system

A call of the hub is carried out by steps of the system, which the hub takes in one of the orders
in which they may come. Between two calls the worker waits, or has stopped, and nothing that is due
is left undone. So what holds of every state that the system reaches holds of a hub at rest.
-/

namespace HomeVoice

open Hub (Dispatcher Process RegistryEdit Worker applyEdit)
open Time (Timestamp)

variable {σ : Type}

/-- What a caller asks of a hub, or what happens around it. -/
inductive Hub.Call (σ : Type) where
  | edit (edit : RegistryEdit)
  | regenerate
  | wait (ms : Nat)
  | execute (text : String)
  | close
  /-- The hub starts again on what it leaves. -/
  | restart (settings : HubSettings)
  /-- Something happens to the store or to the system that drives the devices. -/
  | disturb (change : σ → σ) (dispatcher : Dispatcher)

/-- What a call makes of a hub. Only a start can fail. -/
def Hub.call [Storage σ] (hub : Hub σ) : Hub.Call σ → Except Error (Hub σ)
  | .edit edit => .ok (hub.edit edit.run).2
  | .regenerate => .ok hub.regenerate.2
  | .wait ms => .ok (hub.passTime ms)
  | .execute text => .ok (hub.execute text).2
  | .close => .ok hub.close
  | .restart settings => Hub.start hub.outside settings
  | .disturb change dispatcher =>
    .ok { hub with outside := { hub.outside with store := change hub.outside.store, dispatcher } }

/-- The step that a call asks of the system, besides what the worker does by itself. -/
def Hub.Call.event? (system : System σ) : Hub.Call σ → Option (System.Event σ)
  | .edit change => some (.edit change)
  | .execute text => some (.execute text)
  | .restart settings => some (.restart settings.options settings.debounce)
  | .disturb change _ => some (.disturb (change system.store))
  | _ => none

/-- A step of the worker; a grammar is dated by the clock. -/
def System.Unprompted (system : System σ) : Event σ → Prop
  | .work (.generate time) =>
    time = ⟨system.process.now / 1000, system.process.now % 1000 * 1000000⟩
  | .work _ => True
  | _ => False

/-- A step that a call is carried out with. -/
def Hub.Call.Takes (call : Hub.Call σ) (system : System σ) (event : System.Event σ) : Prop :=
  system.Unprompted event ∨ call.event? system = some event

section Takes

/-! Where a step of a call is none of the worker, it is the one that the call asks for. -/

variable {call : Hub.Call σ} {system : System σ}

theorem Hub.Call.eq_of_takes_edit {edit : RegistryEdit} (takes : call.Takes system (.edit edit)) :
    call = .edit edit := by
  rcases takes with alone | asked
  · cases alone
  · cases call with
    | edit asking =>
      cases asked
      rfl
    | _ => cases asked

theorem Hub.Call.exists_of_takes_restart {options : GrammarOptions} {debounce : Nat}
    (takes : call.Takes system (.restart options debounce)) :
    ∃ settings, call = .restart settings := by
  rcases takes with alone | asked
  · cases alone
  · cases call with
    | restart settings => exact ⟨settings, rfl⟩
    | _ => cases asked

theorem Hub.Call.exists_of_takes_disturb {store : σ} (takes : call.Takes system (.disturb store)) :
    ∃ change dispatcher, call = .disturb change dispatcher ∧ change system.store = store := by
  rcases takes with alone | asked
  · cases alone
  · cases call with
    | disturb change dispatcher =>
      cases asked
      exact ⟨change, dispatcher, rfl, rfl⟩
    | _ => cases asked

end Takes

/-- The surroundings are those of the system. -/
structure Surroundings.Around (outside : Surroundings σ) (system : System σ) : Prop where
  store : system.store = outside.store
  dispatched : system.dispatched = outside.dispatched
  now : system.process.now = outside.now

/-- The hub has the parts of the system, whatever its worker is about. -/
structure Hub.Shares (hub : Hub σ) (system : System σ) : Prop extends
    around : hub.outside.Around system where
  worker : system.process.worker = hub.worker
  registry : system.registry = hub.registry
  queue : system.process.queue = []

/-- The hub is the system at rest. -/
structure Hub.Represents (hub : Hub σ) (system : System σ) : Prop extends
    shares : hub.Shares system where
  waiting : hub.worker.isRunning = true →
    system.process.phase = .waiting ∧ system.process.unseen = false
  stopped : hub.worker.isRunning = false →
    system.process.phase = .stopped ∧ hub.worker.deadline = none

theorem System.Reachable.mono [Storage σ] {permitted allowed : System σ → Event σ → Prop}
    {start system : System σ} (reached : Reachable permitted start system)
    (weaker : ∀ system event, permitted system event → allowed system event) :
    Reachable allowed start system := by
  induction reached with
  | start => exact .start
  | step _ step holds ih => exact ih.step step (weaker _ _ holds)

theorem System.Reachable.trans [Storage σ] {permitted : System σ → Event σ → Prop}
    {start middle system : System σ} (first : Reachable permitted start middle)
    (second : Reachable permitted middle system) : Reachable permitted start system := by
  induction second with
  | start => exact first
  | step _ step allowed ih => exact ih.step step allowed

namespace Hub

/-- The hub is the system in a state that it reaches from another one. -/
def Reached [Storage σ] (permitted : System σ → System.Event σ → Prop) (start : System σ)
    (hub : Hub σ) : Prop :=
  ∃ system, System.Reachable permitted start system ∧ hub.Represents system

theorem Reached.mono [Storage σ] {permitted allowed : System σ → System.Event σ → Prop}
    {start : System σ} {hub : Hub σ} (reached : Reached permitted start hub)
    (weaker : ∀ system event, permitted system event → allowed system event) :
    Reached allowed start hub := by
  obtain ⟨system, run, represents⟩ := reached
  exact ⟨system, run.mono weaker, represents⟩

theorem Reached.after [Storage σ] {permitted : System σ → System.Event σ → Prop}
    {start middle : System σ} {hub : Hub σ} (reached : Reached permitted middle hub)
    (before : System.Reachable permitted start middle) : Reached permitted start hub := by
  obtain ⟨system, run, represents⟩ := reached
  exact ⟨system, before.trans run, represents⟩

variable [Storage σ] {hub : Hub σ} {system : System σ}

omit [Storage σ] in
/-- The attempt of the worker ends, and the worker waits again. -/
theorem Shares.conclude (shares : hub.Shares system) (running : hub.worker.isRunning = true)
    (seen : system.process.unseen = false) (request : Option Nat) (result : Except Error Artifact)
    (time : Timestamp) (store : σ) (cached : List Artifact) :
    Represents
      { hub with
        outside := { hub.outside with store }
        worker := hub.worker.conclude hub.registry result time }
      { system with
        store
        cached
        process := system.process.conclude hub.registry request result time } where
  store := rfl
  dispatched := shares.dispatched
  now := shares.now
  worker := by
    show system.process.worker.conclude _ _ _ = _
    rw [shares.worker]
  registry := shares.registry
  queue := shares.queue
  waiting _ := ⟨rfl, seen⟩
  stopped halted := by
    rw [Worker.conclude_isRunning, running] at halted
    cases halted

/-- An attempt that the worker has taken up for the published registry is brought to its end. -/
theorem Shares.attempt (shares : hub.Shares system) {request : Option Nat}
    (running : hub.worker.isRunning = true) (seen : system.process.unseen = false)
    (generating : system.process.phase = .generating hub.registry request) :
    Reached System.Unprompted system hub.attempt.2 := by
  have clock : hub.outside.time =
      ⟨system.process.now / 1000, system.process.now % 1000 * 1000000⟩ := by
    rw [shares.now]
    rfl
  cases made : hub.registry.generate hub.worker.options hub.outside.time with
  | error error =>
    have ended : hub.attempt.2 =
        { hub with
          outside := { hub.outside with store := system.store }
          worker := hub.worker.conclude hub.registry (.error error) hub.outside.time } := by
      rw [shares.store]
      simp only [Hub.attempt, made]
    rw [ended]
    have failed : system.process.Step (.generate hub.outside.time) _ :=
      .fail generating (shares.worker ▸ made)
    refine ⟨_, .step .start (.work rfl failed) clock, ?_⟩
    exact shares.conclude running seen request (.error error) _ system.store system.cached
  | ok artifact =>
    have generated : system.process.Step (.generate hub.outside.time) _ :=
      .generate generating (shares.worker ▸ made)
    have storing : System.Reachable System.Unprompted system _ :=
      .step .start (.work rfl generated) clock
    cases stored : Storage.storeArtifact hub.outside.store artifact with
    | error error =>
      have ended : hub.attempt.2 =
          { hub with
            outside := { hub.outside with store := system.store }
            worker := hub.worker.conclude hub.registry (.ok artifact) hub.outside.time } := by
        rw [shares.store]
        simp only [Hub.attempt, made, stored]
        rfl
      rw [ended]
      have lost : Storage.storeArtifact system.store artifact = .error error := shares.store ▸ stored
      refine ⟨_, storing.step (.lose rfl lost (.store rfl false hub.outside.time)) trivial, ?_⟩
      exact shares.conclude running seen request (.ok artifact) _ system.store system.cached
    | ok store =>
      have ended : hub.attempt.2 =
          { hub with
            outside := { hub.outside with store }
            worker := hub.worker.conclude hub.registry (.ok artifact) hub.outside.time } := by
        simp only [Hub.attempt, made, stored]
        rfl
      rw [ended]
      have kept : Storage.storeArtifact system.store artifact = .ok store := shares.store ▸ stored
      refine ⟨_, storing.step (.keep rfl kept (.store rfl true hub.outside.time)) trivial, ?_⟩
      exact shares.conclude running seen request (.ok artifact) _ store _

/-- The hub without a deadline. -/
def unplanned (hub : Hub σ) : Hub σ :=
  { hub with worker := { hub.worker with deadline := none } }

omit [Storage σ] in
/-- The worker looks at the published registry, and nothing is planned any more. -/
theorem Shares.look (shares : hub.Shares system) (phase : Hub.Phase) :
    hub.unplanned.Shares
      { system with process := system.process.look system.process.unplanned phase } where
  store := shares.store
  dispatched := shares.dispatched
  now := shares.now
  worker := by
    show system.process.unplanned = hub.unplanned.worker
    rw [Process.unplanned, shares.worker]
    rfl
  registry := shares.registry
  queue := shares.queue

theorem fire_eq (hub : Hub σ) :
    hub.fire =
      if hub.worker.isCurrent hub.registry then hub.unplanned else hub.unplanned.attempt.2 := rfl

/-- Of the surroundings a generation changes the store only. -/
theorem fire_outside (hub : Hub σ) : ∃ store, hub.fire.outside = { hub.outside with store } := by
  rw [fire_eq]
  split
  · exact ⟨_, rfl⟩
  · exact ⟨_, rfl⟩

theorem passTime_outside (hub : Hub σ) (ms : Nat) :
    ∃ store now, (hub.passTime ms).outside = { hub.outside with store, now } := by
  unfold Hub.passTime
  cases hub.worker.deadline with
  | none => exact ⟨_, _, rfl⟩
  | some deadline =>
    by_cases due : deadline ≤ hub.outside.now + ms
    · obtain ⟨store, fired⟩ := (hub.setClock (max deadline hub.outside.now)).fire_outside
      simp only [due, if_true]
      refine ⟨store, hub.outside.now + ms, ?_⟩
      rw [setClock, fired]
      rfl
    · simp only [due, if_false]
      exact ⟨_, _, rfl⟩

theorem fire_registry (hub : Hub σ) : hub.fire.registry = hub.registry := by
  rw [fire_eq]
  split <;> rfl

theorem passTime_registry (hub : Hub σ) (ms : Nat) : (hub.passTime ms).registry = hub.registry := by
  unfold passTime
  cases hub.worker.deadline with
  | none => rfl
  | some deadline =>
    by_cases due : deadline ≤ hub.outside.now + ms
    · simp only [due, if_true]
      exact fire_registry _
    · simp only [due, if_false]
      rfl

theorem settle_registry (hub : Hub σ) : hub.settle.registry = hub.registry := by
  unfold settle
  cases hub.worker.deadline with
  | none => rfl
  | some deadline =>
    by_cases due : deadline ≤ hub.outside.now
    · simp only [due, if_true]
      exact fire_registry _
    · simp only [due, if_false]

namespace Represents

omit [Storage σ] in
/-- A deadline is set only while the worker runs. -/
theorem isRunning (represents : hub.Represents system) {deadline : Nat}
    (planned : hub.worker.deadline = some deadline) : hub.worker.isRunning = true := by
  cases running : hub.worker.isRunning with
  | true => rfl
  | false =>
    have unplanned := (represents.stopped running).2
    rw [planned] at unplanned
    cases unplanned

theorem fire (represents : hub.Represents system) {deadline : Nat}
    (planned : hub.worker.deadline = some deadline) (due : deadline ≤ hub.outside.now) :
    Reached System.Unprompted system hub.fire := by
  have running := represents.isRunning planned
  have ⟨waiting, seen⟩ := represents.waiting running
  have same : system.process.worker.deadline = some deadline := represents.worker ▸ planned
  have reached : deadline ≤ system.process.now := represents.now ▸ due
  have registry : system.process.latest = hub.registry := represents.registry
  rw [fire_eq]
  cases current : hub.worker.isCurrent hub.registry with
  | true =>
    have skipped : system.process.Step .fire _ :=
      .skip waiting same reached (by rwa [represents.worker, registry])
    refine ⟨_, .step .start (.work rfl skipped) trivial, ?_⟩
    exact
      { represents.look .waiting with
        waiting := fun _ => ⟨rfl, rfl⟩
        stopped := fun halted => absurd (running.symm.trans halted) nofun }
  | false =>
    have taken : system.process.Step .fire _ :=
      .fire waiting same reached (by rwa [represents.worker, registry])
    have attempted := (represents.look (.generating system.process.latest none)).attempt running rfl
      (by rw [registry]; rfl)
    exact attempted.after (.step .start (.work rfl taken) trivial)

theorem settle (represents : hub.Represents system) :
    Reached System.Unprompted system hub.settle := by
  unfold Hub.settle
  cases planned : hub.worker.deadline with
  | none => exact ⟨system, .start, represents⟩
  | some deadline =>
    by_cases due : deadline ≤ hub.outside.now
    · simp only [due, if_true]
      exact represents.fire planned due
    · simp only [due, if_false]
      exact ⟨system, .start, represents⟩

/-- The clock goes on. -/
theorem setClock (represents : hub.Represents system) {now : Nat} (later : hub.outside.now ≤ now) :
    Reached System.Unprompted system (hub.setClock now) := by
  refine ⟨_, .step .start (.work rfl (.wait _ (now - hub.outside.now))) trivial, ?_⟩
  exact
    { represents with
      now := by
        show system.process.now + (now - hub.outside.now) = now
        rw [represents.now]
        omega }

theorem passTime (represents : hub.Represents system) (ms : Nat) :
    Reached System.Unprompted system (hub.passTime ms) := by
  unfold Hub.passTime
  cases planned : hub.worker.deadline with
  | none => exact represents.setClock (Nat.le_add_right _ _)
  | some deadline =>
    by_cases due : deadline ≤ hub.outside.now + ms
    · simp only [due, if_true]
      obtain ⟨first, waited, reached⟩ := represents.setClock (Nat.le_max_right deadline _)
      obtain ⟨second, fired, settled⟩ := reached.fire planned (Nat.le_max_left deadline _)
      have early : (hub.setClock (max deadline hub.outside.now)).fire.outside.now ≤
          hub.outside.now + ms := by
        obtain ⟨store, fired⟩ := (hub.setClock (max deadline hub.outside.now)).fire_outside
        rw [fired]
        show max deadline hub.outside.now ≤ _
        omega
      exact (settled.setClock early).after (waited.trans fired)
    · simp only [due, if_false]
      exact represents.setClock (Nat.le_add_right _ _)

/-- A registry is published, and the worker takes notice of it if it runs. -/
theorem publish (represents : hub.Represents system) (next : Registry) (store : σ) :
    Reached System.Unprompted (system.commit next store)
      { hub with
        outside := { hub.outside with store }
        registry := next
        worker := hub.worker.noticeEdit hub.outside.now } := by
  by_cases running : hub.worker.isRunning = true
  · have ⟨waiting, _⟩ := represents.waiting running
    have noticed : (system.process.publish next).Step .notice _ := .notice waiting rfl
    refine ⟨_, .step .start (.work rfl noticed) trivial, ?_⟩
    exact
      { store := rfl
        dispatched := represents.dispatched
        now := represents.now
        worker := by
          show system.process.worker.noticeEdit system.process.now = _
          rw [represents.worker, represents.now]
        registry := rfl
        queue := represents.queue
        waiting := fun _ => ⟨rfl, rfl⟩
        stopped := fun halted => by
          rw [Worker.noticeEdit, if_pos running] at halted
          exact absurd halted (by simp [running]) }
  · rw [Worker.noticeEdit, if_neg running]
    exact ⟨_, .start, { represents with
      store := rfl
      registry := rfl
      waiting := fun runs => absurd runs running }⟩

/-- After an edit the worker takes notice of what the system has published. -/
theorem settle_edit (represents : hub.Represents system) (change : RegistryEdit) :
    Reached System.Unprompted (system.edit change).2 (hub.edit change.run).2 := by
  unfold Hub.edit System.edit
  rw [← represents.store, ← represents.registry]
  cases applied : applyEdit system.store system.registry change.run with
  | error _ => exact ⟨system, .start, represents⟩
  | ok outcome =>
    obtain ⟨answer, next, store⟩ := outcome
    by_cases same : next.version = system.registry.version
    · simp only [same, if_true]
      exact ⟨system, .start, represents⟩
    · simp only [same, if_false]
      obtain ⟨noticed, taken, published⟩ := represents.publish next store
      exact published.settle.after taken

theorem edit (represents : hub.Represents system) (change : RegistryEdit) :
    ∃ after, System.Reachable (Call.edit change).Takes system after ∧
      (hub.edit change.run).2.Represents after := by
  have edited : System.Reachable (Call.edit change).Takes system (system.edit change).2 :=
    .step .start (.edit system change) (.inr rfl)
  exact ((represents.settle_edit change).mono fun _ _ => .inl).after edited

theorem regenerate (represents : hub.Represents system) :
    Reached System.Unprompted system hub.regenerate.2 := by
  unfold Hub.regenerate
  cases running : hub.worker.isRunning with
  | false =>
    have ⟨stopped, _⟩ := represents.stopped running
    exact ⟨_, .step .start (.work rfl (.refuse stopped)) trivial, { represents with }⟩
  | true =>
    have ⟨waiting, seen⟩ := represents.waiting running
    have queued : System.Reachable System.Unprompted system _ :=
      .step .start (.work rfl (.request (by simp [waiting]))) trivial
    have queue : system.process.enqueue.queue = [system.process.requested] := by
      rw [Process.enqueue, represents.queue]
      rfl
    have served := queued.step (.work rfl (.serve waiting queue)) trivial
    have shares : hub.unplanned.Shares
        { system with process :=
            { system.process.enqueue.look system.process.enqueue.unplanned
                (.generating system.process.latest (some system.process.requested)) with
              queue := [] } } :=
      { represents.look .waiting with queue := rfl }
    have registry : system.process.latest = hub.registry := represents.registry
    exact (shares.attempt running rfl (by rw [registry]; rfl)).after served

theorem execute (represents : hub.Represents system) (text : String) :
    ∃ after, System.Reachable (Call.execute text).Takes system after ∧
      (hub.execute text).2.Represents after := by
  have step := System.Step.execute system text
  unfold Hub.execute Hub.resolve
  unfold System.execute at step
  rw [represents.worker] at step
  cases resolved : hub.worker.resolve text with
  | error _ => exact ⟨system, .start, represents⟩
  | ok request =>
    rw [resolved] at step
    have handed : Represents
        { hub with
          outside := { hub.outside with dispatched := hub.outside.dispatched ++ [request] } }
        { system with dispatched := system.dispatched ++ [request] } :=
      { represents with
        dispatched := by
          show system.dispatched ++ [request] = _
          rw [represents.dispatched] }
    have waited := handed.passTime (hub.outside.dispatcher.outcome hub.timeout).2
    exact (waited.mono fun _ _ => .inl).after (.step .start step (.inr rfl))

/-- The hub hands over what the system hands over. -/
theorem dispatched_execute (represents : hub.Represents system) (text : String) :
    (hub.execute text).2.outside.dispatched = (system.execute text).2.dispatched := by
  unfold Hub.execute Hub.resolve System.execute
  rw [represents.worker]
  cases hub.worker.resolve text with
  | error _ => exact represents.dispatched.symm
  | ok request =>
    obtain ⟨store, now, same⟩ := passTime_outside
      { hub with
        outside := { hub.outside with dispatched := hub.outside.dispatched ++ [request] } }
      (hub.outside.dispatcher.outcome hub.timeout).2
    show (Hub.passTime _ _).outside.dispatched = system.dispatched ++ [request]
    rw [same, represents.dispatched]

theorem close (represents : hub.Represents system) :
    Reached System.Unprompted system hub.close := by
  cases running : hub.worker.isRunning with
  | false =>
    have ⟨stopped, unplanned⟩ := represents.stopped running
    refine ⟨system, .start, ?_⟩
    have same : hub.worker.stop = hub.worker := by
      unfold Worker.stop
      rw [← unplanned, ← running]
    exact
      { represents with
        worker := by
          show _ = hub.worker.stop
          rw [same, represents.worker]
        waiting := nofun
        stopped := fun _ => ⟨stopped, rfl⟩ }
  | true =>
    have ⟨waiting, seen⟩ := represents.waiting running
    refine ⟨_, .step .start (.work rfl (.stop (by simp [waiting]))) trivial, ?_⟩
    exact
      { represents with
        worker := by
          show system.process.worker.stop = hub.worker.stop
          rw [represents.worker]
        queue := rfl
        waiting := nofun
        stopped := fun _ => ⟨rfl, rfl⟩ }

end Represents

/-- A start loads the registry, and the worker begins with the answer of the cache. -/
theorem reached_of_start {outside : Surroundings σ} (around : outside.Around system)
    {settings : HubSettings} (started : Hub.start outside settings = .ok hub) :
    Reached (Call.restart settings).Takes system hub := by
  unfold Hub.start at started
  obtain ⟨loaded, found, started⟩ := bind_eq_ok.mp started
  have found := mapError_eq_ok.mp found
  cases started
  rw [← around.store] at found
  have booted : System.Reachable (Call.restart settings).Takes system _ :=
    .step .start (.restart settings.options settings.debounce found) (.inr rfl)
  have begun := booted.step (.work rfl (.begin rfl)) (.inl trivial)
  have asked := begun.step
    (.consult rfl (@Process.Step.consult _ (loaded.getD .empty) rfl _ outside.time)) (.inl trivial)
  have rests : ∃ ready, System.Reachable (Call.restart settings).Takes system ready ∧
      Represents
        { outside := { outside with store := Storage.noteLookup outside.store }
          registry := loaded.getD .empty
          worker := Worker.start
            { options := settings.options, debounce := settings.debounce } (loaded.getD .empty)
            (Storage.loadArtifact outside.store (loaded.getD .empty).version settings.options)
            outside.now outside.time
          timeout := settings.timeout }
        ready := by
    refine ⟨_, asked, ?_⟩
    exact
      { store := congrArg Storage.noteLookup around.store
        dispatched := around.dispatched
        now := around.now
        worker := by
          show Worker.start _ _ (Storage.loadArtifact system.store _ _) system.process.now _ = _
          rw [around.store, around.now]
          rfl
        registry := rfl
        queue := rfl
        waiting := fun _ => ⟨rfl, rfl⟩
        stopped := fun halted => by
          rw [Worker.start_isRunning] at halted
          cases halted }
  obtain ⟨ready, asked, rests⟩ := rests
  exact (rests.settle.mono fun _ _ => .inl).after asked

/-- A call of the hub is a run of the system. -/
theorem Represents.call (represents : hub.Represents system) {call : Call σ} {next : Hub σ}
    (called : hub.call call = .ok next) :
    Reached call.Takes system next := by
  cases call with
  | restart settings => exact reached_of_start represents.around called
  | edit change =>
    cases called
    exact represents.edit change
  | regenerate =>
    cases called
    exact represents.regenerate.mono fun _ _ => .inl
  | wait ms =>
    cases called
    exact (represents.passTime ms).mono fun _ _ => .inl
  | execute text =>
    cases called
    exact represents.execute text
  | close =>
    cases called
    exact represents.close.mono fun _ _ => .inl
  | disturb change dispatcher =>
    cases called
    refine ⟨_, .step .start (.disturb system (change system.store)) (.inr rfl), ?_⟩
    exact { represents with store := congrArg change represents.store }

/-- A hub that is the system somewhere in a run is so after any calls, and the run goes on by steps
that are permitted if all steps of the calls are. -/
theorem Reached.calls {permitted : System σ → System.Event σ → Prop} {start : System σ}
    {before : Hub σ} {calls : List (Call σ)} (reached : Reached permitted start before)
    (called : calls.foldlM Hub.call before = .ok hub)
    (allowed : ∀ call ∈ calls, ∀ system event, call.Takes system event → permitted system event) :
    Reached permitted start hub := by
  refine foldlM_invariant reached ?_ called
  rintro before call after member ⟨system, reached, represents⟩ success
  have taken := (represents.call success).mono (allowed _ member)
  exact taken.after reached

/-- The same of a hub that was started on a new store. -/
theorem reached_of_calls {permitted : System σ → System.Event σ → Prop} {store : σ}
    {dispatcher : Dispatcher} {now : Nat} {settings : HubSettings} {started : Hub σ}
    {calls : List (Call σ)} (opened : Hub.start { store, dispatcher, now } settings = .ok started)
    (called : calls.foldlM Hub.call started = .ok hub)
    (allowed : ∀ call ∈ .restart settings :: calls, ∀ system event,
      call.Takes system event → permitted system event) :
    Reached permitted (System.first store settings.options settings.debounce now) hub := by
  have around : Surroundings.Around { store, dispatcher, now }
      (System.first store settings.options settings.debounce now) := ⟨rfl, rfl, rfl⟩
  have booted := (reached_of_start around opened).mono (allowed _ List.mem_cons_self)
  exact booted.calls called fun call member => allowed call (List.mem_cons_of_mem _ member)

end Hub

end HomeVoice
