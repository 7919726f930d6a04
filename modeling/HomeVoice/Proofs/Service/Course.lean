import HomeVoice.Proofs.Registry.Sound
import HomeVoice.Proofs.Service.Steps

/-!
# The course of one edit

While a caller has the lock nobody else changes what is shared. So whatever happens between its
steps, what became of its edit, and what became of all that is shared as long as it has the lock,
depends on its own steps and on what it found when it got the lock.
-/

namespace HomeVoice.Service

open Hub (RegistryEdit)

deriving instance DecidableEq for Deed

/-- What a caller has done, in this order. -/
def deedsOf (n : Nat) (events : List Event) : List Deed :=
  events.filterMap fun
    | .act caller deed => if caller = n then some deed else none
    | _ => none

section Deeds

variable (n : Nat) (deed : Deed)

theorem deedsOf_append (events more : List Event) :
    deedsOf n (events ++ more) = deedsOf n events ++ deedsOf n more :=
  List.filterMap_append

theorem deedsOf_act : deedsOf n [.act n deed] = [deed] := by
  simp [deedsOf]

theorem deedsOf_other {n m : Nat} (apart : m ≠ n) : deedsOf n [.act m deed] = [] := by
  simp [deedsOf, apart]

end Deeds

variable {σ : Type} [Storage σ]

/-- What became of an edit that found this when it got the lock: what it has done since, what is
shared, and its stage. When the lock is given back, anything may be shared. -/
inductive Course (n : Nat) (found : Board σ) {edit : RegistryEdit} :
    List Deed → Board σ → Stage edit → Prop where
  | locked : Course n found [] found .locked
  | copied : Course n found [.copy] found (.copied found.latest)
  | rejected {error : Error} (failed : edit.run found.latest = .error error) :
      Course n found [.copy, .apply] found (.concluded (.error error))
  | kept {answer : edit.Answer} {next : Registry}
      (done : edit.run found.latest = .ok (answer, next))
      (same : next.version = found.latest.version) :
      Course n found [.copy, .apply] found (.concluded (.ok answer))
  | applied {answer : edit.Answer} {next : Registry}
      (done : edit.run found.latest = .ok (answer, next))
      (changed : next.version ≠ found.latest.version) :
      Course n found [.copy, .apply] found (.committing found.latest answer next)
  | refused {answer : edit.Answer} {next : Registry}
      (done : edit.run found.latest = .ok (answer, next))
      (changed : next.version ≠ found.latest.version) (error : StorageError) :
      Course n found [.copy, .apply, .refuse error] found (.concluded (.error (.storage error)))
  | committed {answer : edit.Answer} {next : Registry} {store : σ}
      (done : edit.run found.latest = .ok (answer, next))
      (changed : next.version ≠ found.latest.version)
      (success : Storage.commit found.store (.between found.latest next) = .ok store) :
      Course n found [.copy, .apply, .commit]
        { found with store, applied := (n, .between found.latest next) :: found.applied }
        (.committed found.latest answer next)
  | published {answer : edit.Answer} {next : Registry} {store : σ}
      (done : edit.run found.latest = .ok (answer, next))
      (changed : next.version ≠ found.latest.version)
      (success : Storage.commit found.store (.between found.latest next) = .ok store) :
      Course n found [.copy, .apply, .commit, .publish]
        { found with
          store
          applied := (n, .between found.latest next) :: found.applied
          latest := next
          published := next :: found.published }
        (.concluded (.ok answer))
  | released {deeds : List Deed} {board : Board σ} {result : Except Error edit.Answer}
      (before : Course n found deeds board (.concluded result)) (now : Board σ) :
      Course n found (deeds ++ [.release]) now (.returned result)
  | abandoned {deeds : List Deed} {board : Board σ} {answer : edit.Answer} {next : Registry}
      (before : Course n found deeds board (.committing found.latest answer next)) (now : Board σ) :
      Course n found (deeds ++ [.drop]) now .dropped
  | orphaned {deeds : List Deed} {board : Board σ} {answer : edit.Answer} {next : Registry}
      (before : Course n found deeds board (.committed found.latest answer next)) (now : Board σ) :
      Course n found (deeds ++ [.drop]) now .dropped

section Course

variable {n : Nat} {found board after : Board σ} {edit : RegistryEdit} {stage next : Stage edit}
  {deeds : List Deed} {deed : Deed}

/-- A step of the caller takes the edit on in its course. -/
theorem Course.advance (course : Course n found deeds board stage)
    (advance : Advance n board stage deed after next) :
    Course n found (deeds ++ [deed]) after next := by
  cases advance with
  | acquire | withdraw => cases course
  | copy => cases course; exact .copied
  | reject failed => cases course; exact .rejected failed
  | keep done same => cases course; exact .kept done same
  | apply done changed => cases course; exact .applied done changed
  | commit success =>
    cases course with
    | applied done changed => exact .committed done changed success
  | refuse _ _ _ error =>
    cases course with
    | applied done changed => exact .refused done changed error
  | publish =>
    cases course with
    | committed done changed success => exact .published done changed success
  | release => exact .released course _
  | abandon =>
    cases course with
    | applied done changed => exact .abandoned (.applied done changed) _
  | orphan =>
    cases course with
    | committed done changed success => exact .orphaned (.committed done changed success) _

/-- Others may change what is shared when the caller does not have the lock. -/
theorem Course.other (course : Course n found deeds board stage)
    (outside : stage.isCritical = false) (now : Board σ) : Course n found deeds now stage := by
  cases course with
  | released before => exact .released before now
  | abandoned before => exact .abandoned before now
  | orphaned before => exact .orphaned before now
  | _ => cases outside

theorem Course.count_le (course : Course n found deeds board stage) :
    deeds.count .commit ≤ 1 ∧ deeds.count .publish ≤ 1 := by
  induction course with
  | released _ _ ih | abandoned _ _ ih | orphaned _ _ ih =>
    simpa [List.count_append] using ih
  | _ => simp

/-- For an edit that does not succeed or changes nothing the store is not even asked, and nothing is
published. -/
theorem Course.not_mem (course : Course n found deeds board stage)
    (still : ∀ answer next, edit.run found.latest = .ok (answer, next) →
      next.version = found.latest.version) :
    (.commit ∉ deeds ∧ ∀ error, .refuse error ∉ deeds) ∧ .publish ∉ deeds := by
  induction course with
  | released _ _ ih | abandoned _ _ ih | orphaned _ _ ih => simpa using ih
  | refused done changed | committed done changed | published done changed =>
    exact absurd (still _ _ done) changed
  | _ => simp

/-- An edit that fails does so by itself, or the store has refused its changes. It was neither
committed nor published. -/
theorem Course.of_error (course : Course n found deeds board stage) {error : Error}
    (failed : stage.result? = some (.error error)) :
    (edit.run found.latest = .error error ∨
      ∃ cause, error = .storage cause ∧ .refuse cause ∈ deeds) ∧
      .commit ∉ deeds ∧ .publish ∉ deeds := by
  induction course with
  | rejected failure =>
    cases failed
    exact ⟨.inl failure, by simp⟩
  | refused done changed cause =>
    cases failed
    exact ⟨.inr ⟨cause, rfl, by simp⟩, by simp⟩
  | released _ _ ih =>
    obtain ⟨reason, silent⟩ := ih failed
    refine ⟨reason.imp_right ?_, by simpa using silent⟩
    rintro ⟨cause, same, refused⟩
    exact ⟨cause, same, List.mem_append_left _ refused⟩
  | _ => cases failed

/-- What an edit answers is what it has made of its copy. -/
theorem Course.of_ok (course : Course n found deeds board stage) {answer : edit.Answer}
    (success : stage.result? = some (.ok answer)) :
    ∃ next, edit.run found.latest = .ok (answer, next) := by
  induction course with
  | kept done | published done =>
    cases success
    exact ⟨_, done⟩
  | released _ _ ih => exact ih success
  | _ => cases success

/-- As long as an edit that was not committed has the lock, all is as it found it. -/
theorem Course.eq_of_not_mem (course : Course n found deeds board stage)
    (silent : .commit ∉ deeds) (critical : stage.isCritical = true) : board = found := by
  cases course with
  | committed | published => simp at silent
  | released | abandoned | orphaned => cases critical
  | _ => rfl

end Course

section Run

variable {n : Nat} {edit : RegistryEdit} {events : List Event} {start service : Service σ}
  {store : σ} {registry : Registry}

/-- From where a caller got the lock its edit takes its course, whatever else happens. -/
theorem Run.course (run : start.Run events service) (exclusive : start.Exclusive)
    (locked : start.callers[n]? = some ⟨edit, .locked⟩) :
    ∃ stage, service.callers[n]? = some ⟨edit, stage⟩ ∧
      Course n start.toBoard (deedsOf n events) service.toBoard stage := by
  induction run with
  | nil => exact ⟨_, locked, .locked⟩
  | @step _ service _ event before step ih =>
    obtain ⟨stage, here, course⟩ := ih
    have exclusive := exclusive.run before
    rw [deedsOf_append]
    cases step with
    | call => exact ⟨stage, getElem?_append_of_here here _, by simpa [deedsOf] using course⟩
    | read => exact ⟨stage, here, by simpa [deedsOf] using course⟩
    | @act m edit' old next deed board there advance =>
      by_cases self : m = n
      · subst self
        cases here.symm.trans there
        rw [deedsOf_act]
        exact ⟨next, getElem?_set_here here _, course.advance advance⟩
      · rw [deedsOf_other _ self, List.append_nil]
        refine ⟨stage, ?_, ?_⟩
        · show (service.callers.set m _)[n]? = _
          rw [getElem?_set_of_here there, if_neg self, here]
        · cases critical : stage.isCritical with
          | false => exact course.other critical _
          | true =>
            have same := advance.eq_of_other (exclusive.own there) (exclusive.own here critical) self
            show Course n start.toBoard _ board stage
            rwa [same]

/-- Who has not come yet has done nothing. -/
theorem Run.deedsOf_beyond (run : (first store registry).Run events service)
    (beyond : service.callers.length ≤ n) : deedsOf n events = [] := by
  induction run with
  | nil => rfl
  | step _ step ih =>
    rw [deedsOf_append]
    cases step with
    | read => rw [ih beyond]; rfl
    | call =>
      rw [List.length_append] at beyond
      rw [ih (by omega)]; rfl
    | @act m _ _ _ _ _ there =>
      rw [List.length_set] at beyond
      have apart : m ≠ n := by
        rintro rfl
        obtain ⟨inside, _⟩ := List.getElem?_eq_some_iff.mp there
        omega
      rw [ih beyond, deedsOf_other _ apart, List.append_nil]

/-- At this point of a run a caller has just got the lock. -/
structure Begun (store : σ) (registry : Registry) (events : List Event) (service : Service σ)
    (n : Nat) (edit : RegistryEdit) (earlier later : List Event) (before : Service σ) : Prop where
  split : events = earlier ++ later
  reached : (first store registry).Run earlier before
  deeds : deedsOf n earlier = [.acquire]
  locked : before.callers[n]? = some ⟨edit, .locked⟩
  run : before.Run later service

theorem Begun.step {earlier later : List Event} {before after : Service σ} {event : Event}
    (begun : Begun store registry events service n edit earlier later before)
    (step : Step service event after) :
    Begun store registry (events ++ [event]) after n edit earlier (later ++ [event]) before :=
  { begun with
    split := by rw [begun.split, List.append_assoc]
    run := begun.run.step step }

/-- A caller waits for the lock, or it went while it waited, or it got the lock. -/
theorem Run.begun_cases {stage : Stage edit} (run : (first store registry).Run events service)
    (here : service.callers[n]? = some ⟨edit, stage⟩) :
    (deedsOf n events = [] ∧ stage = .waiting ∨ deedsOf n events = [.drop] ∧ stage = .dropped) ∨
      ∃ earlier later before, Begun store registry events service n edit earlier later before := by
  induction run generalizing stage with
  | nil => simp [first] at here
  | @step events service after event run step ih =>
    have others {stage : Stage edit} (there : service.callers[n]? = some ⟨edit, stage⟩)
        (silent : deedsOf n [event] = []) :
        (deedsOf n (events ++ [event]) = [] ∧ stage = .waiting ∨
          deedsOf n (events ++ [event]) = [.drop] ∧ stage = .dropped) ∨
        ∃ earlier later before,
          Begun store registry (events ++ [event]) after n edit earlier later before := by
      rw [deedsOf_append, silent, List.append_nil]
      refine (ih there).imp_right ?_
      rintro ⟨earlier, later, before, begun⟩
      exact ⟨earlier, later ++ [event], before, begun.step step⟩
    cases step with
    | read => exact others here rfl
    | call =>
      rcases getElem?_append_cases here with there | ⟨last, same⟩
      · exact others there rfl
      · cases same
        refine .inl (.inl ⟨?_, rfl⟩)
        rw [deedsOf_append, run.deedsOf_beyond (Nat.le_of_eq last.symm)]
        rfl
    | @act m _ old _ _ _ there advance =>
      rcases getElem?_set_cases there here with ⟨rfl, same⟩ | ⟨apart, there⟩
      · cases same
        rcases ih there with (⟨deeds, rfl⟩ | ⟨_, rfl⟩) | ⟨earlier, later, before, begun⟩
        · cases advance with
          | acquire free =>
            have step := Step.act there (.acquire free)
            refine .inr ⟨_, [], _, (List.append_nil _).symm, run.step step, ?_, here, .nil⟩
            rw [deedsOf_append, deeds, deedsOf_act]
            rfl
          | withdraw =>
            refine .inl (.inr ⟨?_, rfl⟩)
            rw [deedsOf_append, deeds, deedsOf_act]
            rfl
        · cases advance
        · exact .inr ⟨earlier, _, before, begun.step (.act there advance)⟩
      · exact others there (deedsOf_other _ apart)

/-- What is published in a run is sound if it was at the start. -/
theorem Run.sound (run : (first store registry).Run events service) (sound : registry.Sound) :
    service.latest.Sound := by
  induction run with
  | nil => exact sound
  | step run step ih =>
    cases step with
    | read | call => exact ih
    | @act n _ _ _ _ _ here advance =>
      cases advance with
      | publish =>
        obtain ⟨rfl, done, _⟩ := run.exclusive.fits n _ here
        exact Hub.RegistryEdit.sound_of_run ih done
      | _ => exact ih

end Run

end HomeVoice.Service
