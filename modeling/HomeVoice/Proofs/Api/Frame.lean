import HomeVoice.Api.Handlers
import HomeVoice.Proofs.System.Calls
import HomeVoice.Proofs.System.Dispatch
import HomeVoice.Proofs.Text.Characters

/-!
# A request that fails changes nothing

Whatever a request is, its answer tells of success or nothing that the hub keeps has changed: the
published registry, the store and the active grammar are as they were and no request was handed
over. Only a command may be handed over in vain. What is only asked for changes nothing in any case.
-/

namespace HomeVoice

namespace Hub

variable {σ α : Type}

/-- What the hub keeps is the same. -/
structure Untouched (hub after : Hub σ) : Prop where
  registry : after.registry = hub.registry
  store : after.outside.store = hub.outside.store
  artifact : after.worker.artifact = hub.worker.artifact
  dispatched : after.outside.dispatched = hub.outside.dispatched

theorem Untouched.refl (hub : Hub σ) : Untouched hub hub := ⟨rfl, rfl, rfl, rfl⟩

/-- A call that gives an error has changed nothing. -/
def FailsClean (hub : Hub σ) (outcome : Except Error α × Hub σ) : Prop :=
  ∀ error, outcome.1 = .error error → hub.Untouched outcome.2

/-- A request was handed over. -/
def hand (hub : Hub σ) (asked : DispatchRequest) : Hub σ :=
  { hub with outside := { hub.outside with dispatched := hub.outside.dispatched ++ [asked] } }

variable [Storage σ]

/-- An edit is done on a copy, and a commit that fails leaves the store. -/
theorem edit_failsClean (hub : Hub σ) (edit : Edit α) : hub.FailsClean (hub.edit edit) := by
  intro error failed
  unfold Hub.edit at failed ⊢
  cases applied : applyEdit hub.outside.store hub.registry edit with
  | error _ => exact .refl hub
  | ok done =>
    obtain ⟨answer, registry, store⟩ := done
    rw [applied] at failed
    by_cases same : registry.version = hub.registry.version <;> simp [same] at failed

/-- An attempt that fails leaves the grammar and the store. -/
theorem regenerate_failsClean (hub : Hub σ) : hub.FailsClean hub.regenerate := by
  intro error failed
  unfold regenerate attempt at failed ⊢
  by_cases running : hub.worker.isRunning = true
  · simp only [running, if_true] at failed ⊢
    rw [failed]
    exact ⟨rfl, rfl, rfl, rfl⟩
  · simp only [running]
    exact .refl hub

/-- Time that does not reach the deadline changes nothing but the clock. -/
theorem passTime_of_undue (hub : Hub σ) (ms : Nat)
    (undue : ∀ deadline, hub.worker.deadline = some deadline → hub.outside.now + ms < deadline) :
    hub.passTime ms = hub.setClock (hub.outside.now + ms) := by
  unfold passTime
  cases planned : hub.worker.deadline with
  | none => rfl
  | some deadline => simp only [Nat.not_le.mpr (undue deadline planned), if_false]

end Hub

namespace Api

variable {σ α β : Type}

/-- The status of an answer. -/
def Answer.status : Answer → Nat
  | .response full => full.status
  | .refused status => status

/-- The status tells of success. -/
def Answer.Succeeds (answer : Answer) : Prop := 200 ≤ answer.status ∧ answer.status < 300

/-- A call changes nothing unless the answer is one of success. -/
def Spares (hub : Hub σ) (outcome : Answer × Hub σ) : Prop :=
  ¬ outcome.1.Succeeds → hub.Untouched outcome.2

theorem spares_self (hub : Hub σ) (answer : Answer) : Spares hub (answer, hub) :=
  fun _ => .refl hub

theorem spares_of_succeeds {hub after : Hub σ} {answer : Answer} (success : answer.Succeeds) :
    Spares hub (answer, after) :=
  fun failed => absurd success failed

/-- What a call gave is answered with success, unless it is an error. -/
theorem ofResult_spares {hub : Hub σ} {outcome : Except Error α × Hub σ}
    (clean : hub.FailsClean outcome) {status : Nat} (success : 200 ≤ status ∧ status < 300)
    (encode : α → Json.Value) :
    Spares hub (.response (.ofResult status encode outcome.1), outcome.2) := by
  rcases outcome with ⟨error | value, after⟩
  · exact fun _ => clean error rfl
  · exact spares_of_succeeds success

/-- The same of a call whose answer is made of what it left. -/
theorem call_spares {hub : Hub σ} {outcome : Except Error α × Hub σ}
    (clean : hub.FailsClean outcome) {status : Nat} (success : 200 ≤ status ∧ status < 300)
    (encode : Hub σ → α → Json.Value) :
    Spares hub ((match outcome with
      | (result, after) => (Response.ofResult status (encode after) result, after)).map
        .response id) :=
  ofResult_spares clean success (encode outcome.2)

theorem withRead_spares {hub : Hub σ} {read : Except Nat α} {next : α → Response × Hub σ}
    (spared : ∀ value, Spares hub ((next value).map .response id)) :
    Spares hub (withRead hub read next) := by
  cases read with
  | error status => exact spares_self hub _
  | ok value => exact spared value

theorem withChecked_spares {hub : Hub σ} {checked : Except Error α} {encode : β → Json.Value}
    {call : α → Except Error β × Hub σ} (clean : ∀ value, hub.FailsClean (call value)) :
    Spares hub ((withChecked hub checked encode call).map .response id) := by
  cases checked with
  | error error => exact spares_self hub _
  | ok value => exact call_spares (clean value) ⟨by decide, by decide⟩ fun _ => encode

variable [Storage σ] {hub : Hub σ}

theorem createType_spares (name : String) (actions : List Action) :
    Spares hub ((createType hub name actions).map .response id) := by
  have clean : ∀ name, hub.FailsClean (hub.addDeviceType name actions) :=
    fun _ => hub.edit_failsClean _
  unfold createType
  generalize hub.addDeviceType = add at clean ⊢
  cases readName name with
  | error error => exact spares_self hub _
  | ok name =>
    exact call_spares (clean name) ⟨by decide, by decide⟩ fun after _ =>
      encodeType (name, (after.registry.vocabulary name).getD [])

theorem createLocation_spares (name : String) :
    Spares hub ((createLocation hub name).map .response id) := by
  have clean : ∀ name, hub.FailsClean (hub.addLocation name) := fun _ => hub.edit_failsClean _
  unfold createLocation
  generalize hub.addLocation = add at clean ⊢
  cases (readName name : Except Error Location) with
  | error error => exact spares_self hub _
  | ok name =>
    have clean := clean name
    rcases done : add name with ⟨error | isNew, after⟩
    · rw [done] at clean
      simp only [done]
      exact fun _ => clean error rfl
    · simp only [done]
      refine spares_of_succeeds ?_
      cases isNew
      · show 200 ≤ 200 ∧ 200 < 300
        decide
      · show 200 ≤ 201 ∧ 201 < 300
        decide

theorem handlePut_spares (request : Request) (route : Route) :
    Spares hub (handlePut hub request route) := by
  unfold handlePut
  cases route with
  | device id =>
    exact withRead_spares fun _ => withChecked_spares fun _ => hub.edit_failsClean _
  | deviceEnabled id =>
    exact withRead_spares fun _ => withChecked_spares fun _ => hub.edit_failsClean _
  | deviceAssignment id =>
    exact withRead_spares fun _ => withChecked_spares fun _ => hub.edit_failsClean _
  | _ => exact spares_self hub _

/-- A command was handed over, and the driving system answered with an error or not in time. The
worker goes on while one waits for it, and nothing but that has changed. -/
structure HandedInVain (hub : Hub σ) (text : String) (answer : Answer) (after : Hub σ)
    (asked : DispatchRequest) (error : Error) (wait : Nat) : Prop where
  resolved : hub.resolve text = .ok asked
  cause : hub.outside.dispatcher = .answering (.error error) wait ∨
    error = .external (.timeout "dispatch" hub.timeout) ∧ wait = hub.timeout
  answered : answer = .response (.ofError error)
  dispatched : after.outside.dispatched = hub.outside.dispatched ++ [asked]
  registry : after.registry = hub.registry
  worked : after = (hub.hand asked).passTime wait
  undue : (∀ deadline, hub.worker.deadline = some deadline → hub.outside.now + wait < deadline) →
    after.outside.store = hub.outside.store ∧ after.worker.artifact = hub.worker.artifact

theorem handedInVain {text : String} {asked : DispatchRequest} {error : Error} {wait : Nat}
    (resolved : hub.resolve text = .ok asked)
    (outcome : hub.outside.dispatcher.outcome hub.timeout = (.error error, wait)) :
    HandedInVain hub text (.response (.ofError error)) ((hub.hand asked).passTime wait) asked error
      wait where
  resolved := resolved
  cause := by
    unfold Hub.Dispatcher.outcome at outcome
    cases behaviour : hub.outside.dispatcher with
    | stuck =>
      rw [behaviour] at outcome
      cases outcome
      exact .inr ⟨rfl, rfl⟩
    | answering result ms =>
      simp only [behaviour] at outcome
      split at outcome
      · cases outcome
        exact .inl rfl
      · cases outcome
        exact .inr ⟨rfl, rfl⟩
  answered := rfl
  dispatched := by
    obtain ⟨store, now, same⟩ := Hub.passTime_outside (hub.hand asked) wait
    rw [same]
    rfl
  registry := Hub.passTime_registry ..
  worked := rfl
  undue later := by
    rw [Hub.passTime_of_undue (hub.hand asked) wait later]
    exact ⟨rfl, rfl⟩

/-- A body is read as a text if it is one and not too long. -/
theorem readText_eq_ok_iff {request : Request} {text : String} :
    readText request = .ok text ↔
      request.body.size ≤ bodyLimit ∧ request.body = text.toUTF8 := by
  rw [← Text.fromUTF8?_eq_some_iff]
  unfold readText readBytes
  by_cases short : request.body.size ≤ bodyLimit
  · rw [if_pos short, ok_bind]
    cases String.fromUTF8? request.body <;>
      simp [short, throw, throwThe, MonadExceptOf.throw, pure, Except.pure]
  · simp [short, bind, Except.bind]

theorem handlePost_commands (request : Request) :
    Spares hub (handlePost hub request .commands) ∨ ∃ text asked error wait,
      request.body = text.toUTF8 ∧ HandedInVain hub text (handlePost hub request .commands).1
        (handlePost hub request .commands).2 asked error wait := by
  unfold handlePost
  cases read : readText request with
  | error status => exact .inl (spares_self hub _)
  | ok text =>
    simp only [withRead, Hub.execute]
    cases resolved : hub.resolve text with
    | error error => exact .inl (spares_self hub _)
    | ok asked =>
      rcases outcome : hub.outside.dispatcher.outcome hub.timeout with ⟨error | done, wait⟩
      · exact .inr ⟨text, asked, error, wait, (readText_eq_ok_iff.mp read).2,
          handedInVain resolved outcome⟩
      · exact .inl (spares_of_succeeds (show 200 ≤ 200 ∧ 200 < 300 by decide))

theorem handlePost_spares (request : Request) {route : Route} (other : route ≠ .commands) :
    Spares hub (handlePost hub request route) := by
  unfold handlePost
  cases route with
  | batch =>
    refine withRead_spares fun batch => ?_
    have clean : hub.FailsClean (hub.importDevices batch) := hub.edit_failsClean _
    generalize hub.importDevices batch = outcome at clean ⊢
    exact call_spares clean ⟨by decide, by decide⟩ fun _ => ImportReport.encode
  | deviceTypes => exact withRead_spares fun (name, actions) => createType_spares name actions
  | locations => exact withRead_spares createLocation_spares
  | regeneration =>
    have clean := hub.regenerate_failsClean
    generalize hub.regenerate = outcome at clean ⊢
    exact ofResult_spares clean ⟨by decide, by decide⟩ _
  | resolution => exact withRead_spares fun text => spares_self hub _
  | commands => exact absurd rfl other
  | _ => exact spares_self hub _

theorem handlePost_resolution (request : Request) :
    (handlePost hub request .resolution).2 = hub := by
  unfold handlePost
  cases readText request <;> rfl

theorem handle_cases (request : Request) :
    Spares hub (handle hub request) ∨
      request.method = "POST" ∧ pathOf request.target.toList = "/api/commands".toList ∧
        ∃ text asked error wait, request.body = text.toUTF8 ∧
          HandedInVain hub text (handle hub request).1 (handle hub request).2 asked error wait := by
  unfold handle
  cases found : Route.ofTarget? request.target with
  | none => exact .inl (spares_self hub _)
  | some route =>
    cases method : Method.ofText? request.method with
    | none => exact .inl (spares_self hub _)
    | some taken =>
      by_cases allowed : taken ∈ route.methods
      · simp only [allowed, if_true]
        cases taken with
        | get => exact .inl (spares_self hub _)
        | put => exact .inl (handlePut_spares request route)
        | post =>
          by_cases command : route = .commands
          · subst command
            refine (handlePost_commands request).imp_right fun handed => ?_
            exact ⟨Method.ofText?_eq_post method, Route.ofTarget?_eq_commands_iff.mp found, handed⟩
          · exact .inl (handlePost_spares request command)
      · simp only [allowed, if_false]
        exact .inl (spares_self hub _)

/-- What is got leaves the hub. -/
theorem handle_get {request : Request} (got : Method.ofText? request.method = some .get) :
    (handle hub request).2 = hub := by
  unfold handle
  rw [got]
  cases Route.ofTarget? request.target with
  | none => rfl
  | some route =>
    dsimp only
    split <;> rfl

/-- A command that is only resolved leaves the hub. -/
theorem handle_resolution {request : Request} (posted : request.method = "POST")
    (path : pathOf request.target.toList = "/api/commands/resolve".toList) :
    (handle hub request).2 = hub := by
  unfold handle
  rw [Route.ofTarget?_of_resolution path, posted]
  exact handlePost_resolution request

/-- A request that fails leaves the published registry, the store, the active grammar and what was
handed over as they are, unless it is a command that was handed over in vain. A request that only
asks for something leaves the whole hub. -/
theorem handle_frame (hub : Hub σ) (request : Request) :
    (¬ (handle hub request).1.Succeeds →
      hub.Untouched (handle hub request).2 ∨
        request.method = "POST" ∧ pathOf request.target.toList = "/api/commands".toList ∧
          ∃ text asked error wait, request.body = text.toUTF8 ∧
            HandedInVain hub text (handle hub request).1 (handle hub request).2 asked error wait) ∧
      (request.method = "GET" ∨ request.method = "HEAD" ∨
          request.method = "POST" ∧
            pathOf request.target.toList = "/api/commands/resolve".toList →
        (handle hub request).2 = hub) := by
  constructor
  · exact fun failed => (handle_cases request).imp_left fun spared => spared failed
  · rintro (got | got | ⟨posted, path⟩)
    · exact handle_get (by rw [got]; rfl)
    · exact handle_get (by rw [got]; rfl)
    · exact handle_resolution posted path

/-- A command for a lamp that the driving system does not carry out is handed over in vain; it is
not handed over at all without a grammar, nor where it is only resolved. -/
theorem handle_frame_lamp :
    let request : Request := ⟨"POST", "/api/commands", none, System.lampCommand.toUTF8⟩
    let outside : Surroundings Store.Memory := { store := {}, dispatcher := .failing }
    let silent : Hub Store.Memory :=
      ⟨outside, System.withLamp, true, { options := {}, debounce := 500 }, 1000⟩
    ∃ artifact asked error wait,
      let hub := { silent with worker := { silent.worker with artifact := some artifact } }
      ¬ (handle hub request).1.Succeeds ∧ (handle hub request).2.outside.dispatched = [asked] ∧
      HandedInVain hub System.lampCommand (handle hub request).1 (handle hub request).2 asked error
        wait ∧
      ¬ (handle silent request).1.Succeeds ∧ silent.Untouched (handle silent request).2 ∧
      (handle hub { request with target := "/api/commands/resolve" }).2 = hub := by
  intro request outside silent
  obtain ⟨command, artifact, asked, parsed, made, resolved⟩ := System.lampCommand_resolves
  let hub := { silent with worker := { silent.worker with artifact := some artifact } }
  have resolves : hub.resolve System.lampCommand = .ok asked := by
    show Command.parse System.lampCommand >>= (·.resolve artifact) = _
    rw [parsed]
    exact resolved
  have found : Route.ofTarget? "/api/commands" = some .commands := by decide +kernel
  have read : readText request = .ok System.lampCommand :=
    readText_eq_ok_iff.mpr ⟨by decide +kernel, rfl⟩
  have handled : ∀ hub : Hub Store.Memory, handle hub request =
      ((.response (.ofResult 200 DispatchRequest.encode (hub.execute System.lampCommand).1)),
        (hub.execute System.lampCommand).2) := by
    intro hub
    simp only [handle, request, found, handlePost] at read ⊢
    rw [read]
    rfl
  have answered : (handle hub request).1 =
      .response (.ofError (.external (.failed "dispatch"))) := by
    rw [handled, Hub.execute, resolves]
    rfl
  have dispatched : (handle hub request).2.outside.dispatched = [asked] := by
    rw [handled, Hub.execute, resolves]
    rfl
  have refused : (handle silent request).1 =
      .response (.ofError (.integrity .noActiveGrammar)) := by
    rw [handled]
    rfl
  have failed : ¬ (handle hub request).1.Succeeds := by
    rw [answered]
    exact fun success => absurd success.2 (by decide)
  have alike : ¬ (handle silent request).1.Succeeds := by
    rw [refused]
    exact fun success => absurd success.2 (by decide)
  obtain untouched | ⟨_, _, text, other, error, wait, same, vain⟩ :=
    (handle_frame hub request).1 failed
  · cases untouched.dispatched.symm.trans dispatched
  · cases String.toByteArray_inj.mp same
    cases vain.resolved.symm.trans resolves
    have asking := (handle_frame hub { request with target := "/api/commands/resolve" }).2
    refine ⟨artifact, asked, error, wait, failed, dispatched, vain, alike, ?_,
      asking (.inr (.inr ⟨rfl, by decide +kernel⟩))⟩
    obtain untouched | ⟨_, _, _, _, _, _, _, handed⟩ := (handle_frame silent request).1 alike
    · exact untouched
    · cases handed.resolved

end Api

end HomeVoice
