import HomeVoice.Hub.Editing
import HomeVoice.Proofs.Outcome

/-!
# The steps of edits that are under way together

An edit takes the lock, copies the published registry, changes its copy, has the changes committed,
publishes the copy and gives the lock back. Between any two of these steps others go on with their
edits, more edits are asked for and readers look at what is published. The store may refuse to
commit at any time. Whoever waits for the lock or for the store may be dropped, and then what the
store has applied stays applied.
-/

namespace HomeVoice

open Hub (RegistryEdit)

namespace Service

/-- How far an edit has come. -/
inductive Stage (edit : RegistryEdit) where
  /-- It waits for the lock. -/
  | waiting
  /-- It has the lock. -/
  | locked
  /-- It has a copy of the published registry. -/
  | copied (current : Registry)
  /-- The copy is changed, and the store is to commit the changes. -/
  | committing (current : Registry) (answer : edit.Answer) (next : Registry)
  /-- The store has applied the changes. -/
  | committed (current : Registry) (answer : edit.Answer) (next : Registry)
  /-- The result is there, and the lock is not given back yet. -/
  | concluded (result : Except Error edit.Answer)
  | returned (result : Except Error edit.Answer)
  /-- Whoever asked for it has gone. -/
  | dropped

namespace Stage

variable {edit : RegistryEdit}

/-- It has the lock. -/
def isCritical : Stage edit → Bool
  | waiting | returned _ | dropped => false
  | locked | copied _ | committing _ _ _ | committed _ _ _ | concluded _ => true

/-- It has the lock and no result yet. -/
def isOpen : Stage edit → Bool
  | locked | copied _ | committing _ _ _ | committed _ _ _ => true
  | waiting | concluded _ | returned _ | dropped => false

/-- It has not had the lock yet. -/
def isWaiting : Stage edit → Bool
  | waiting => true
  | _ => false

/-- The edit is at its end. -/
def isOver : Stage edit → Bool
  | returned _ | dropped => true
  | _ => false

/-- The changes went to the store, or the edit is at its end. -/
def isSpent : Stage edit → Bool
  | committed _ _ _ | concluded _ | returned _ | dropped => true
  | waiting | locked | copied _ | committing _ _ _ => false

/-- The registry that the store has already and that is not published. -/
def ahead? : Stage edit → Option Registry
  | committed _ _ next => some next
  | _ => none

/-- What was applied to the store and is not published. -/
def owed? : Stage edit → Option Changeset
  | committed current _ next => some (.between current next)
  | _ => none

def result? : Stage edit → Option (Except Error edit.Answer)
  | concluded result | returned result => some result
  | _ => none

/-- The steps that are left at most. -/
def stepsLeft : Stage edit → Nat
  | waiting => 6
  | locked => 5
  | copied _ => 4
  | committing _ _ _ => 3
  | committed _ _ _ => 2
  | concluded _ => 1
  | returned _ | dropped => 0

/-- The copy is one of the published registry, and the changes are those of the edit. -/
def Fits (latest : Registry) : Stage edit → Prop
  | copied current => current = latest
  | committing current answer next | committed current answer next =>
    current = latest ∧ edit.run current = .ok (answer, next) ∧ next.version ≠ current.version
  | _ => True

theorem fits_of_not_isCritical {stage : Stage edit} (outside : stage.isCritical = false)
    (latest : Registry) : stage.Fits latest := by
  cases stage with
  | copied | committing | committed => cases outside
  | _ => trivial

end Stage

/-- An edit that was asked for. -/
structure Caller where
  edit : RegistryEdit
  stage : Stage edit

/-- What a caller does, or what happens to it. -/
inductive Deed where
  | acquire | copy | apply
  /-- The store applies the changes. -/
  | commit
  /-- The store refuses the changes. -/
  | refuse (error : StorageError)
  | publish | release
  /-- The caller is dropped while it waits. -/
  | drop

/-- What happens. Callers are numbered in the order in which they come. -/
inductive Event where
  | call (edit : RegistryEdit)
  | act (caller : Nat) (deed : Deed)
  /-- A reader or a subscriber looks at what is published. -/
  | read

/-- The callers who took the lock, in this order. -/
def acquisitions (events : List Event) : List Nat :=
  events.filterMap fun
    | .act caller .acquire => some caller
    | _ => none

/-- What all callers share, with what was done to it. -/
structure Board (σ : Type) where
  store : σ
  /-- The registry that was published last. -/
  latest : Registry
  /-- Who has the lock. -/
  holder : Option Nat
  /-- The published registries, the last one first. -/
  published : List Registry
  /-- Whose changes the store has applied, the last ones first. -/
  applied : List (Nat × Changeset)

end Service

/-- The registry service with those who edit the registry and what its readers saw. -/
structure Service (σ : Type) extends Service.Board σ where
  callers : List Service.Caller
  seen : List Registry

namespace Service

variable {σ : Type}

/-- The service as it starts on a store with what the store holds. -/
def first (store : σ) (registry : Registry) : Service σ where
  store
  latest := registry
  holder := none
  published := [registry]
  applied := []
  callers := []
  seen := []

/-- What a deed makes of the shared things and of the stage of the caller with this number. -/
inductive Advance [Storage σ] (n : Nat) {edit : RegistryEdit} :
    Board σ → Stage edit → Deed → Board σ → Stage edit → Prop where
  | acquire {board : Board σ} (free : board.holder = none) :
      Advance n board .waiting .acquire { board with holder := some n } .locked
  | copy (board : Board σ) : Advance n board .locked .copy board (.copied board.latest)
  /-- The edit fails. -/
  | reject {board : Board σ} {current : Registry} {error : Error}
      (failed : edit.run current = .error error) :
      Advance n board (.copied current) .apply board (.concluded (.error error))
  /-- The edit changes nothing. -/
  | keep {board : Board σ} {current next : Registry} {answer : edit.Answer}
      (done : edit.run current = .ok (answer, next)) (same : next.version = current.version) :
      Advance n board (.copied current) .apply board (.concluded (.ok answer))
  | apply {board : Board σ} {current next : Registry} {answer : edit.Answer}
      (done : edit.run current = .ok (answer, next)) (changed : next.version ≠ current.version) :
      Advance n board (.copied current) .apply board (.committing current answer next)
  | commit {board : Board σ} {current next : Registry} {answer : edit.Answer} {store : σ}
      (success : Storage.commit board.store (.between current next) = .ok store) :
      Advance n board (.committing current answer next) .commit
        { board with store, applied := (n, .between current next) :: board.applied }
        (.committed current answer next)
  | refuse (board : Board σ) (current next : Registry) (answer : edit.Answer)
      (error : StorageError) :
      Advance n board (.committing current answer next) (.refuse error) board
        (.concluded (.error (.storage error)))
  | publish (board : Board σ) (current next : Registry) (answer : edit.Answer) :
      Advance n board (.committed current answer next) .publish
        { board with latest := next, published := next :: board.published }
        (.concluded (.ok answer))
  | release (board : Board σ) (result : Except Error edit.Answer) :
      Advance n board (.concluded result) .release { board with holder := none } (.returned result)
  | withdraw (board : Board σ) : Advance n board .waiting .drop board .dropped
  /-- The caller is dropped, and its changes were not applied. -/
  | abandon (board : Board σ) (current next : Registry) (answer : edit.Answer) :
      Advance n board (.committing current answer next) .drop { board with holder := none } .dropped
  /-- The caller is dropped when its changes were applied already. -/
  | orphan (board : Board σ) (current next : Registry) (answer : edit.Answer) :
      Advance n board (.committed current answer next) .drop { board with holder := none } .dropped

/-- What one event makes of the service. -/
inductive Step [Storage σ] : Service σ → Event → Service σ → Prop where
  | call (service : Service σ) (edit : RegistryEdit) :
      Step service (.call edit) { service with callers := service.callers ++ [⟨edit, .waiting⟩] }
  | read (service : Service σ) :
      Step service .read { service with seen := service.latest :: service.seen }
  | act {service : Service σ} {n : Nat} {edit : RegistryEdit} {stage after : Stage edit} {deed : Deed}
      {board : Board σ} (here : service.callers[n]? = some ⟨edit, stage⟩)
      (advance : Advance n service.toBoard stage deed board after) :
      Step service (.act n deed)
        { service with toBoard := board, callers := service.callers.set n ⟨edit, after⟩ }

/-- What a sequence of events makes of a service. -/
inductive Run [Storage σ] (start : Service σ) : List Event → Service σ → Prop where
  | nil : Run start [] start
  | step {events : List Event} {service after : Service σ} {event : Event}
      (before : Run start events service) (step : Step service event after) :
      Run start (events ++ [event]) after

section Callers

variable {callers : List Caller} {n m : Nat} {old new caller : Caller}

theorem getElem?_set_of_here (here : callers[n]? = some old) (new : Caller) (m : Nat) :
    (callers.set n new)[m]? = if n = m then some new else callers[m]? := by
  obtain ⟨inside, _⟩ := List.getElem?_eq_some_iff.mp here
  rw [List.getElem?_set]
  by_cases same : n = m
  · rw [if_pos same, if_pos same, if_pos inside]
  · rw [if_neg same, if_neg same]

theorem getElem?_set_here (here : callers[n]? = some old) (new : Caller) :
    (callers.set n new)[n]? = some new := by
  rw [getElem?_set_of_here here, if_pos rfl]

/-- A caller that moved is in its new place, and all others are in theirs. -/
theorem getElem?_set_cases (here : callers[n]? = some old)
    (found : (callers.set n new)[m]? = some caller) :
    n = m ∧ caller = new ∨ n ≠ m ∧ callers[m]? = some caller := by
  rw [getElem?_set_of_here here] at found
  by_cases same : n = m
  · rw [if_pos same] at found
    exact .inl ⟨same, (Option.some.inj found).symm⟩
  · rw [if_neg same] at found
    exact .inr ⟨same, found⟩

/-- Whoever was there when another one comes is still there. -/
theorem getElem?_append_of_here (here : callers[n]? = some old) (others : List Caller) :
    (callers ++ others)[n]? = some old := by
  obtain ⟨inside, _⟩ := List.getElem?_eq_some_iff.mp here
  rw [List.getElem?_append_left inside, here]

/-- Whoever is there after another one came was there before or is that one. -/
theorem getElem?_append_cases (found : (callers ++ [new])[m]? = some caller) :
    callers[m]? = some caller ∨ m = callers.length ∧ caller = new := by
  rcases Nat.lt_or_ge m callers.length with inside | beyond
  · rw [List.getElem?_append_left inside] at found
    exact .inl found
  · rw [List.getElem?_append_right beyond] at found
    obtain ⟨last, same⟩ := List.getElem?_eq_some_iff.mp found
    have last : m - callers.length = 0 := by simpa using last
    exact .inr ⟨by omega, by simpa [last] using same.symm⟩

end Callers

/-- Only the caller that has the lock is past the lock, and its copy is one of the published
registry. -/
structure Exclusive (service : Service σ) : Prop where
  holder : ∀ n : Nat, service.holder = some n ↔
    ∃ caller : Caller, service.callers[n]? = some caller ∧ caller.stage.isCritical = true
  fits : ∀ (n : Nat) (caller : Caller), service.callers[n]? = some caller → caller.stage.Fits service.latest

section Free

variable {service : Service σ} {n : Nat} {edit : RegistryEdit} {stage : Stage edit}

theorem exclusive_first (store : σ) (registry : Registry) : (first store registry).Exclusive where
  holder n := by simp [first]
  fits n caller found := by simp [first] at found

theorem Exclusive.holder_iff (exclusive : service.Exclusive)
    (here : service.callers[n]? = some ⟨edit, stage⟩) :
    service.holder = some n ↔ stage.isCritical = true := by
  rw [exclusive.holder n]
  constructor
  · rintro ⟨caller, there, critical⟩
    cases here.symm.trans there
    exact critical
  · exact fun critical => ⟨_, here, critical⟩

theorem Exclusive.own (exclusive : service.Exclusive)
    (here : service.callers[n]? = some ⟨edit, stage⟩) (critical : stage.isCritical = true) :
    service.holder = some n :=
  (exclusive.holder_iff here).mpr critical

theorem Exclusive.call (exclusive : service.Exclusive) (edit : RegistryEdit) :
    ({ service with callers := service.callers ++ [⟨edit, .waiting⟩] } : Service σ).Exclusive := by
  constructor
  · intro n
    show service.holder = some n ↔ _
    rw [exclusive.holder n]
    constructor
    · rintro ⟨caller, here, critical⟩
      exact ⟨caller, getElem?_append_of_here here _, critical⟩
    · rintro ⟨caller, here, critical⟩
      rcases getElem?_append_cases here with before | ⟨_, rfl⟩
      · exact ⟨caller, before, critical⟩
      · cases critical
  · intro n caller here
    rcases getElem?_append_cases here with before | ⟨_, rfl⟩
    · exact exclusive.fits n caller before
    · trivial

end Free

/-- What a view tells of the caller that has the lock. -/
def ofHolder {α : Type} (service : Service σ) (view : Nat → Caller → Option α) : Option α :=
  service.holder.bind fun n => service.callers[n]?.bind (view n)

/-- It is the turn of the caller with this number, or nobody's. -/
def AtTurn (service : Service σ) (n : Nat) {edit : RegistryEdit} (stage : Stage edit) : Prop :=
  service.holder = some n ∨ service.holder = none ∧ stage.isCritical = false

section Turns

variable {α : Type} {service : Service σ} {n : Nat} {edit : RegistryEdit} {stage next : Stage edit}
  {view : Nat → Caller → Option α} {board : Board σ} {deed : Deed}

theorem AtTurn.ofHolder_eq (turn : service.AtTurn n stage)
    (here : service.callers[n]? = some ⟨edit, stage⟩)
    (silent : stage.isCritical = false → view n ⟨edit, stage⟩ = none) :
    service.ofHolder view = view n ⟨edit, stage⟩ := by
  unfold ofHolder
  rcases turn with holder | ⟨free, outside⟩
  · simp [holder, here]
  · rw [free, silent outside]
    rfl

/-- Whose turn it is stays so when another caller comes. -/
theorem Exclusive.ofHolder_call (exclusive : service.Exclusive) (caller : Caller)
    (view : Nat → Caller → Option α) :
    ({ service with callers := service.callers ++ [caller] } : Service σ).ofHolder view =
      service.ofHolder view := by
  unfold ofHolder
  dsimp only
  cases holder : service.holder with
  | none => rfl
  | some n =>
    obtain ⟨holding, here, _⟩ := (exclusive.holder n).mp holder
    have stays := getElem?_append_of_here here [caller]
    simp [here, stays]

/-- A caller without the lock may become anything. -/
theorem Exclusive.ofHolder_set (exclusive : service.Exclusive)
    (here : service.callers[n]? = some ⟨edit, stage⟩) (outside : stage.isCritical = false)
    (caller : Caller) (view : Nat → Caller → Option α) :
    ({ service with callers := service.callers.set n caller } : Service σ).ofHolder view =
      service.ofHolder view := by
  unfold ofHolder
  dsimp only
  cases holder : service.holder with
  | none => rfl
  | some m =>
    obtain ⟨holding, there, critical⟩ := (exclusive.holder m).mp holder
    have apart : n ≠ m := by
      rintro rfl
      cases here.symm.trans there
      rw [outside] at critical
      cases critical
    simp [getElem?_set_of_here here, apart]

/-- A caller acts when it is its turn or nobody's, and so it is afterwards, unless it goes while it
waits. -/
theorem Advance.turn_cases [Storage σ] (advance : Advance n service.toBoard stage deed board next)
    (own : stage.isCritical = true → service.holder = some n) :
    service.AtTurn n stage ∧
      AtTurn { service with toBoard := board, callers := service.callers.set n ⟨edit, next⟩ } n next ∨
    deed = .drop ∧ board = service.toBoard ∧ stage = .waiting ∧ next = .dropped := by
  cases advance with
  | acquire free => exact .inl ⟨.inr ⟨free, rfl⟩, .inl rfl⟩
  | withdraw => exact .inr ⟨rfl, rfl, rfl, rfl⟩
  | release | abandon | orphan => exact .inl ⟨.inl (own rfl), .inr ⟨rfl, rfl⟩⟩
  | _ => exact .inl ⟨.inl (own rfl), .inl (own rfl)⟩

end Turns

variable [Storage σ]

section Advance

variable {n m : Nat} {edit : RegistryEdit} {board after : Board σ} {stage next : Stage edit}
  {deed : Deed}

theorem Advance.fits (advance : Advance n board stage deed after next)
    (fits : stage.Fits board.latest) : next.Fits after.latest := by
  cases advance with
  | copy => rfl
  | apply done changed => exact ⟨fits, done, changed⟩
  | commit => exact fits
  | _ => trivial

/-- Past the lock a caller has the lock, and it gives the lock back when it leaves. -/
theorem Advance.holder_iff (advance : Advance n board stage deed after next)
    (own : board.holder = some n ↔ stage.isCritical = true) :
    after.holder = some n ↔ next.isCritical = true := by
  cases advance with
  | acquire | release | abandon | orphan => simp [Stage.isCritical]
  | _ => exact own

/-- Whether another caller has the lock does not change. -/
theorem Advance.holder_iff_of_ne (advance : Advance n board stage deed after next)
    (own : stage.isCritical = true → board.holder = some n) (apart : n ≠ m) :
    after.holder = some m ↔ board.holder = some m := by
  cases advance with
  | acquire free => simp [free, apart]
  | release | abandon | orphan => simp [own rfl, apart]
  | _ => rfl

/-- While another caller has the lock, a caller changes nothing that is shared. -/
theorem Advance.eq_of_other (advance : Advance n board stage deed after next)
    (own : stage.isCritical = true → board.holder = some n) (other : board.holder = some m)
    (apart : n ≠ m) : after = board := by
  cases advance with
  | withdraw => rfl
  | acquire free =>
    rw [free] at other
    cases other
  | _ => exact absurd (Option.some.inj ((own rfl).symm.trans other)) apart

theorem Advance.stepsLeft_lt (advance : Advance n board stage deed after next) :
    next.stepsLeft < stage.stepsLeft := by
  cases advance <;> simp [Stage.stepsLeft]

end Advance

section Exclusive

variable {service after : Service σ} {event : Event} {n : Nat} {edit : RegistryEdit}
  {stage next : Stage edit} {deed : Deed} {board : Board σ}

theorem Exclusive.act (exclusive : service.Exclusive)
    (here : service.callers[n]? = some ⟨edit, stage⟩)
    (advance : Advance n service.toBoard stage deed board next) :
    ({ service with toBoard := board, callers := service.callers.set n ⟨edit, next⟩ } :
      Service σ).Exclusive := by
  have own := exclusive.own here
  constructor
  · intro m
    show board.holder = some m ↔ ∃ caller, (service.callers.set n ⟨edit, next⟩)[m]? = some caller ∧ _
    rw [getElem?_set_of_here here]
    by_cases same : n = m
    · subst same
      simpa using advance.holder_iff (exclusive.holder_iff here)
    · rw [if_neg same, ← exclusive.holder m]
      exact advance.holder_iff_of_ne own same
  · intro m caller found
    rcases getElem?_set_cases here found with ⟨rfl, rfl⟩ | ⟨apart, there⟩
    · exact advance.fits (exclusive.fits n _ here)
    · cases critical : caller.stage.isCritical with
      | false => exact Stage.fits_of_not_isCritical critical _
      | true =>
        have holds := exclusive.own there critical
        show caller.stage.Fits board.latest
        rw [advance.eq_of_other own holds apart]
        exact exclusive.fits m caller there

theorem Exclusive.step (exclusive : service.Exclusive) (step : Step service event after) :
    after.Exclusive := by
  cases step with
  | read => exact ⟨exclusive.holder, exclusive.fits⟩
  | call edit => exact exclusive.call edit
  | act here advance => exact exclusive.act here advance

theorem Exclusive.run {start : Service σ} {events : List Event} (exclusive : start.Exclusive)
    (run : start.Run events service) : service.Exclusive := by
  induction run with
  | nil => exact exclusive
  | step _ step ih => exact ih.step step

theorem Run.exclusive {store : σ} {registry : Registry} {events : List Event}
    (run : (first store registry).Run events service) : service.Exclusive :=
  (exclusive_first store registry).run run

end Exclusive

section Progress

variable {start service after : Service σ} {events : List Event} {event : Event}

theorem Run.cons (step : Step start event service) (run : service.Run events after) :
    start.Run (event :: events) after := by
  induction run with
  | nil => exact Run.nil.step step
  | step _ next ih => exact ih.step next

theorem Run.trans {more : List Event} (run : start.Run events service)
    (later : service.Run more after) : start.Run (events ++ more) after := by
  induction later with
  | nil => rwa [List.append_nil]
  | step _ next ih =>
    rw [← List.append_assoc]
    exact ih.step next

/-- While an edit is not at its end, some caller can go on by itself: the one that has the lock, or
else any that waits for it. -/
theorem Exclusive.exists_act (exclusive : service.Exclusive) {caller : Caller}
    (asked : caller ∈ service.callers) (pending : caller.stage.isOver = false) :
    ∃ n deed after, deed ≠ .drop ∧ Step service (.act n deed) after := by
  obtain ⟨m, there⟩ := List.mem_iff_getElem?.mp asked
  cases holder : service.holder with
  | none =>
    obtain ⟨edit, stage⟩ := caller
    have outside : stage.isCritical = false := by
      cases critical : stage.isCritical with
      | false => rfl
      | true => exact absurd (exclusive.own there critical) (by simp [holder])
    cases stage with
    | waiting => exact ⟨m, .acquire, _, nofun, .act there (.acquire holder)⟩
    | returned _ | dropped => cases pending
    | _ => cases outside
  | some n =>
    obtain ⟨⟨edit, stage⟩, here, critical⟩ := (exclusive.holder n).mp holder
    cases stage with
    | waiting | returned _ | dropped => cases critical
    | locked => exact ⟨n, .copy, _, nofun, .act here (.copy _)⟩
    | copied current =>
      cases done : edit.run current with
      | error error => exact ⟨n, .apply, _, nofun, .act here (.reject done)⟩
      | ok outcome =>
        obtain ⟨answer, next⟩ := outcome
        by_cases same : next.version = current.version
        · exact ⟨n, .apply, _, nofun, .act here (.keep done same)⟩
        · exact ⟨n, .apply, _, nofun, .act here (.apply done same)⟩
    | committing current answer next =>
      cases success : Storage.commit service.store (.between current next) with
      | error error => exact ⟨n, .refuse error, _, nofun, .act here (.refuse _ _ _ _ error)⟩
      | ok store => exact ⟨n, .commit, _, nofun, .act here (.commit success)⟩
    | committed current answer next => exact ⟨n, .publish, _, nofun, .act here (.publish _ _ _ _)⟩
    | concluded result => exact ⟨n, .release, _, nofun, .act here (.release _ _)⟩

/-- The steps that are left at most to all callers. -/
def stepsLeft (service : Service σ) : Nat :=
  service.callers.foldr (fun caller total => caller.stage.stepsLeft + total) 0

/-- A measure of all callers goes down if it does for one of them. -/
theorem foldr_set_lt {callers : List Caller} {n : Nat} {old new : Caller}
    (measure : Caller → Nat) (here : callers[n]? = some old)
    (less : measure new < measure old) :
    (callers.set n new).foldr (fun caller total => measure caller + total) 0 <
      callers.foldr (fun caller total => measure caller + total) 0 := by
  induction callers generalizing n with
  | nil => cases here
  | cons caller rest ih =>
    cases n with
    | zero =>
      cases here
      exact Nat.add_lt_add_right less _
    | succ n => exact Nat.add_lt_add_left (ih here) _

theorem Step.stepsLeft_lt {n : Nat} {deed : Deed} (step : Step service (.act n deed) after) :
    after.stepsLeft < service.stepsLeft := by
  cases step with
  | act here advance =>
    exact foldr_set_lt (fun caller => caller.stage.stepsLeft) here advance.stepsLeft_lt

/-- Every caller can be brought to its end, without dropping any. -/
theorem Exclusive.exists_finish (exclusive : service.Exclusive) :
    ∃ events after, service.Run events after ∧
      (∀ event ∈ events, ∃ n deed, event = .act n deed ∧ deed ≠ .drop) ∧
      ∀ caller ∈ after.callers, caller.stage.isOver = true := by
  induction measured : service.stepsLeft using Nat.strongRecOn generalizing service with
  | ind total ih =>
    by_cases finished : ∀ caller ∈ service.callers, caller.stage.isOver = true
    · exact ⟨[], service, .nil, List.forall_mem_nil _, finished⟩
    · simp only [Classical.not_forall, Bool.not_eq_true] at finished
      obtain ⟨caller, asked, pending⟩ := finished
      obtain ⟨n, deed, next, kept, step⟩ := exclusive.exists_act asked pending
      obtain ⟨events, after, run, deeds, finished⟩ :=
        ih _ (measured ▸ step.stepsLeft_lt) (exclusive.step step) rfl
      refine ⟨_, after, .cons step run, ?_, finished⟩
      intro event happens
      rcases List.mem_cons.mp happens with rfl | later
      · exact ⟨n, deed, rfl, kept⟩
      · exact deeds event later

end Progress

section Alone

variable {service : Service σ} {edit : RegistryEdit}

/-- The caller that came last acts. -/
theorem Step.actLast {before : List Caller} {stage next : Stage edit} {deed : Deed}
    {board : Board σ} (last : service.callers = before ++ [⟨edit, stage⟩])
    (advance : Advance before.length service.toBoard stage deed board next) :
    Step service (.act before.length deed)
      { service with toBoard := board, callers := before ++ [⟨edit, next⟩] } := by
  have moved : before ++ [⟨edit, next⟩] = service.callers.set before.length ⟨edit, next⟩ := by
    simp [last]
  rw [moved]
  exact .act (by simp [last]) advance

/-- A caller comes and goes on up to where the store has applied its changes. -/
def committing (n : Nat) (edit : RegistryEdit) : List Event :=
  [.call edit, .act n .acquire, .act n .copy, .act n .apply, .act n .commit]

/-- While nobody has the lock, an edit that succeeds gets as far as that. -/
theorem run_committing (edit : RegistryEdit) {store : σ} {next : Registry} {answer : edit.Answer}
    (free : service.holder = none) (done : edit.run service.latest = .ok (answer, next))
    (changed : next.version ≠ service.latest.version)
    (success : Storage.commit service.store (.between service.latest next) = .ok store) :
    service.Run (committing service.callers.length edit)
      { service with
        holder := some service.callers.length
        store
        applied := (service.callers.length, .between service.latest next) :: service.applied
        callers := service.callers ++ [⟨edit, .committed service.latest answer next⟩] } :=
  .cons (.call service edit) <| .cons (.actLast rfl (.acquire free)) <|
    .cons (.actLast rfl (.copy _)) <| .cons (.actLast rfl (.apply done changed)) <|
    .cons (.actLast rfl (.commit success)) .nil

end Alone

end Service

end HomeVoice
