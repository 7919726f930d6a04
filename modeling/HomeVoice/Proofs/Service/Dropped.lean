import HomeVoice.Proofs.Service.Serial
import HomeVoice.Proofs.Store.Database

/-!
# Callers that are dropped

A caller that is dropped before the store has applied its changes leaves no trace. One that is
dropped after that, and before it has published them, leaves the store with a registry that nobody
sees: the tables hold what all applied changes make of what they held at first, and the published
registry is another one until it is loaded again.
-/

namespace HomeVoice.Service

open Hub (RegistryEdit)
open Store (Database Tables)

/-- All changes that the store has applied, laid over the registry that it held at first. -/
def laid {σ : Type} (service : Service σ) (base : Registry) : Registry :=
  service.applied.foldr (fun entry registry => entry.2.overlay registry) base

/-- This caller was dropped. -/
def IsDropped {σ : Type} (service : Service σ) (n : Nat) : Prop :=
  ∃ edit, service.callers[n]? = some ⟨edit, .dropped⟩

/-- A caller was dropped though the store has applied its changes. -/
def IsOrphaned {σ : Type} (service : Service σ) : Prop :=
  ∃ entry ∈ service.applied, service.IsDropped entry.1

/-- The registry that the store should have: the published one, or the next one if its changes are
applied already. -/
def front {σ : Type} (service : Service σ) : Registry :=
  (service.ofHolder fun _ caller => caller.stage.ahead?).getD service.latest

section Views

variable {σ : Type} {service : Service σ} {n : Nat} {edit : RegistryEdit} {stage : Stage edit}

theorem AtTurn.front_eq (turn : service.AtTurn n stage)
    (here : service.callers[n]? = some ⟨edit, stage⟩) :
    service.front = stage.ahead?.getD service.latest := by
  unfold front
  rw [turn.ofHolder_eq here]
  intro outside
  cases stage <;> first | rfl | cases outside

theorem Stage.owedBy_eq_none (behind : stage.ahead? = none) (n : Nat) : stage.owedBy n = none := by
  cases stage <;> first | rfl | cases behind

end Views

variable {base : Registry} {service after : Service Database} {event : Event} {events : List Event}

/-- What holds of tables and published registry after every event. -/
structure Tracks (base : Registry) (service : Service Database) : Prop where
  exclusive : service.Exclusive
  holds : service.store.tables.Holds (service.laid base)
  covers : (service.laid base).Covers service.latest
  coversFront : (service.laid base).Covers service.front
  sound : service.latest.Sound
  ranges : service.latest.RangesIn ValueRange.Survives
  given : ∀ (n : Nat) (caller : Caller), service.callers[n]? = some caller →
    caller.edit.RangesIn ValueRange.Survives
  spent : ∀ entry ∈ service.applied, ∃ caller, service.callers[entry.1]? = some caller ∧
    caller.stage.isSpent = true
  newest : ∀ entry, service.owed = some entry → ∃ rest, service.applied = entry :: rest
  level : ¬ service.IsOrphaned → (service.laid base).Same service.front
  apart : ∀ n changes rest, service.applied = (n, changes) :: rest → service.IsDropped n →
    changes.version ≠ service.latest.version

theorem tracks_first {store : Database} (holds : store.tables.Holds base) :
    Tracks base (first store base) where
  exclusive := exclusive_first store base
  holds
  covers := .refl base
  coversFront := .refl base
  sound := holds.sound
  ranges := holds.survive
  given n caller here := by simp [first] at here
  spent := List.forall_mem_nil _
  newest := nofun
  level _ := .refl base
  apart n changes rest applied := by cases applied

/-- Who is dropped stays so. -/
theorem IsDropped.step {n : Nat} (dropped : service.IsDropped n) (step : Step service event after) :
    after.IsDropped n := by
  obtain ⟨edit, there⟩ := dropped
  cases step with
  | read => exact ⟨edit, there⟩
  | call => exact ⟨edit, getElem?_append_of_here there _⟩
  | @act m _ _ _ _ _ here advance =>
    refine ⟨edit, ?_⟩
    rw [getElem?_set_of_here here, if_neg]
    · exact there
    · rintro rfl
      cases there.symm.trans here
      cases advance

theorem IsOrphaned.mono (orphaned : service.IsOrphaned) (step : Step service event after)
    (kept : ∀ entry ∈ service.applied, entry ∈ after.applied) : after.IsOrphaned := by
  obtain ⟨entry, applied, dropped⟩ := orphaned
  exact ⟨entry, kept entry applied, dropped.step step⟩

/-- Nothing that matters to tables and published registry has happened. -/
theorem Tracks.quiet (tracks : Tracks base service) (step : Step service event after)
    (store : after.store = service.store) (applied : after.applied = service.applied)
    (latest : after.latest = service.latest) (front : after.front = service.front)
    (owed : ∀ entry, after.owed = some entry → service.owed = some entry)
    (given : ∀ (n : Nat) (caller : Caller), after.callers[n]? = some caller →
      caller.edit.RangesIn ValueRange.Survives)
    (spent : ∀ entry ∈ service.applied, ∃ caller, after.callers[entry.1]? = some caller ∧
      caller.stage.isSpent = true)
    (fresh : ∀ entry ∈ service.applied, after.IsDropped entry.1 → service.IsDropped entry.1) :
    Tracks base after := by
  have laid : after.laid base = service.laid base := by rw [Service.laid, applied]; rfl
  have orphaned (before : service.IsOrphaned) : after.IsOrphaned :=
    before.mono step fun entry known => applied ▸ known
  exact
    { exclusive := tracks.exclusive.step step
      holds := by
        rw [store, laid]
        exact tracks.holds
      covers := by
        rw [laid, latest]
        exact tracks.covers
      coversFront := by
        rw [laid, front]
        exact tracks.coversFront
      sound := latest ▸ tracks.sound
      ranges := latest ▸ tracks.ranges
      given
      spent := by
        rw [applied]
        exact spent
      newest := by
        intro entry owes
        rw [applied]
        exact tracks.newest entry (owed entry owes)
      level := by
        intro clean
        rw [laid, front]
        exact tracks.level (mt orphaned clean)
      apart := by
        intro n changes rest last dropped
        rw [applied] at last
        rw [latest]
        refine tracks.apart n changes rest last (fresh (n, changes) ?_ dropped)
        rw [last]
        exact List.mem_cons_self }

section Act

variable {n : Nat} {edit : RegistryEdit} {stage next : Stage edit} {deed : Deed}
  {board : Board Database}

theorem Tracks.given_set (tracks : Tracks base service)
    (here : service.callers[n]? = some ⟨edit, stage⟩) (next : Stage edit) (m : Nat) (caller : Caller)
    (found : (service.callers.set n ⟨edit, next⟩)[m]? = some caller) :
    caller.edit.RangesIn ValueRange.Survives := by
  rcases getElem?_set_cases here found with ⟨_, rfl⟩ | ⟨_, there⟩
  · exact tracks.given n ⟨edit, stage⟩ here
  · exact tracks.given m caller there

theorem Tracks.spent_set (tracks : Tracks base service)
    (here : service.callers[n]? = some ⟨edit, stage⟩)
    (stays : stage.isSpent = true → next.isSpent = true) (entry : Nat × Changeset)
    (applied : entry ∈ service.applied) :
    ∃ caller, (service.callers.set n ⟨edit, next⟩)[entry.1]? = some caller ∧
      caller.stage.isSpent = true := by
  obtain ⟨caller, there, spent⟩ := tracks.spent entry applied
  rw [getElem?_set_of_here here]
  by_cases self : n = entry.1
  · rw [← self, here] at there
    cases there
    exact ⟨⟨edit, next⟩, if_pos self, stays spent⟩
  · rw [if_neg self]
    exact ⟨caller, there, spent⟩

/-- A caller that is dropped before its changes went to the store is none of those whose changes are
applied. -/
theorem Tracks.isDropped_set (tracks : Tracks base service)
    (here : service.callers[n]? = some ⟨edit, stage⟩)
    (fresh : next = .dropped → stage.isSpent = false) {entry : Nat × Changeset}
    (applied : entry ∈ service.applied)
    (dropped : ∃ edit', (service.callers.set n ⟨edit, next⟩)[entry.1]? = some ⟨edit', .dropped⟩) :
    service.IsDropped entry.1 := by
  obtain ⟨other, there⟩ := dropped
  rcases getElem?_set_cases here there with ⟨self, same⟩ | ⟨_, before⟩
  · cases same
    obtain ⟨caller, asked, spent⟩ := tracks.spent entry applied
    rw [← self, here] at asked
    cases asked
    rw [fresh rfl] at spent
    cases spent
  · exact ⟨other, before⟩

/-- The service after a caller has acted. -/
abbrev acted (service : Service Database) (board : Board Database) (n : Nat) {edit : RegistryEdit}
    (next : Stage edit) : Service Database :=
  { service with toBoard := board, callers := service.callers.set n ⟨edit, next⟩ }

/-- A caller goes on, and the store is not concerned. -/
theorem Tracks.goOn (tracks : Tracks base service)
    (here : service.callers[n]? = some ⟨edit, stage⟩)
    (step : Step service (.act n deed) (service.acted board n next))
    (turn : service.AtTurn n stage) (turn' : (service.acted board n next).AtTurn n next)
    (store : board.store = service.store) (applied : board.applied = service.applied)
    (latest : board.latest = service.latest) (behind : stage.ahead? = none)
    (behind' : next.ahead? = none) (stays : stage.isSpent = true → next.isSpent = true)
    (fresh : next = .dropped → stage.isSpent = false) :
    Tracks base (service.acted board n next) := by
  have there := getElem?_set_here here ⟨edit, next⟩
  refine tracks.quiet step store applied latest ?_ ?_ (tracks.given_set here next)
    (tracks.spent_set here stays) fun entry applied => tracks.isDropped_set here fresh applied
  · rw [turn.front_eq here, turn'.front_eq there, behind, behind']
    exact latest
  · intro entry owed
    rw [turn'.owed_eq there, Stage.owedBy_eq_none behind'] at owed
    cases owed

/-- The store applies the changes of a caller. -/
theorem Tracks.commit (tracks : Tracks base service) {answer : edit.Answer}
    {current made : Registry} {store : Database}
    (here : service.callers[n]? = some ⟨edit, .committing current answer made⟩)
    (success : Storage.commit service.store (.between current made) = .ok store) :
    Tracks base (service.acted
      { service.toBoard with store, applied := (n, .between current made) :: service.applied } n
      (.committed current answer made)) := by
  have step := Step.act here (.commit success)
  obtain ⟨turn, turn'⟩ := ((Advance.commit (n := n) success).turn_cases
    (tracks.exclusive.own here)).resolve_right fun gone => nomatch gone.1
  have there := getElem?_set_here here ⟨edit, .committed current answer made⟩
  obtain ⟨rfl, done, changed⟩ := tracks.exclusive.fits n _ here
  obtain ⟨count, few, changes⟩ :=
    edit.changes_of_run tracks.sound tracks.ranges (tracks.given n _ here) done
  have sound := changes.sound tracks.sound
  have ranges := changes.rangesIn tracks.ranges
  exact
    { exclusive := tracks.exclusive.step step
      holds := tracks.holds.commit tracks.covers sound ranges (Database.commit_eq_ok success)
      covers := (Registry.covers_overlay _ _).trans tracks.covers
      coversFront := by
        rw [turn'.front_eq there]
        exact tracks.covers.overlay tracks.holds.sound sound
      sound := tracks.sound
      ranges := tracks.ranges
      given := tracks.given_set here _
      spent := List.forall_mem_cons.mpr ⟨⟨_, there, rfl⟩, tracks.spent_set here nofun⟩
      newest := by
        intro entry owes
        rw [turn'.owed_eq there] at owes
        cases owes
        exact ⟨_, rfl⟩
      level := by
        intro clean
        have same := tracks.level
          (mt (·.mono step fun _ known => List.mem_cons_of_mem _ known) clean)
        rw [turn.front_eq here] at same
        rw [turn'.front_eq there]
        exact Changeset.overlay_between changes.extensive sound same
      apart := by
        rintro _ _ _ ⟨⟩ ⟨_, dropped⟩
        cases there.symm.trans dropped }

/-- A caller publishes what the store has applied. -/
theorem Tracks.publish (tracks : Tracks base service) {answer : edit.Answer}
    {current made : Registry}
    (here : service.callers[n]? = some ⟨edit, .committed current answer made⟩) :
    Tracks base (service.acted
      { service.toBoard with latest := made, published := made :: service.published } n
      (.concluded (.ok answer))) := by
  have advance := Advance.publish (n := n) service.toBoard current made answer
  have step := Step.act here advance
  obtain ⟨turn, turn'⟩ := (advance.turn_cases
    (tracks.exclusive.own here)).resolve_right fun gone => nomatch gone.1
  have there := getElem?_set_here here ⟨edit, .concluded (.ok answer)⟩
  obtain ⟨rfl, done, changed⟩ := tracks.exclusive.fits n _ here
  obtain ⟨count, few, changes⟩ :=
    edit.changes_of_run tracks.sound tracks.ranges (tracks.given n _ here) done
  have covers := tracks.coversFront
  rw [turn.front_eq here] at covers
  exact
    { exclusive := tracks.exclusive.step step
      holds := tracks.holds
      covers
      coversFront := by
        rw [turn'.front_eq there]
        exact covers
      sound := changes.sound tracks.sound
      ranges := changes.rangesIn tracks.ranges
      given := tracks.given_set here _
      spent := tracks.spent_set here fun _ => rfl
      newest := by
        intro entry owes
        rw [turn'.owed_eq there] at owes
        cases owes
      level := by
        intro clean
        have same := tracks.level (mt (·.mono step fun _ known => known) clean)
        rw [turn.front_eq here] at same
        rw [turn'.front_eq there]
        exact same
      apart := by
        rintro _ _ _ last ⟨_, dropped⟩
        obtain ⟨_, newest⟩ := tracks.newest _ (turn.owed_eq here)
        cases newest.symm.trans last
        cases there.symm.trans dropped }

/-- A caller is dropped whose changes the store has applied. -/
theorem Tracks.orphan (tracks : Tracks base service) {answer : edit.Answer}
    {current made : Registry}
    (here : service.callers[n]? = some ⟨edit, .committed current answer made⟩) :
    Tracks base
      (service.acted { service.toBoard with holder := none } n (.dropped : Stage edit)) := by
  have advance := Advance.orphan (n := n) service.toBoard current made answer
  have step := Step.act here advance
  obtain ⟨turn, turn'⟩ : service.AtTurn n _ ∧ _ :=
    (advance.turn_cases (tracks.exclusive.own here)).resolve_right fun gone => nomatch gone.2.2.1
  have there := getElem?_set_here here ⟨edit, .dropped⟩
  obtain ⟨rfl, done, changed⟩ := tracks.exclusive.fits n _ here
  obtain ⟨rest, newest⟩ := tracks.newest _ (turn.owed_eq here)
  exact
    { exclusive := tracks.exclusive.step step
      holds := tracks.holds
      covers := tracks.covers
      coversFront := by
        rw [turn'.front_eq there]
        exact tracks.covers
      sound := tracks.sound
      ranges := tracks.ranges
      given := tracks.given_set here _
      spent := tracks.spent_set here fun _ => rfl
      newest := by
        intro entry owes
        rw [turn'.owed_eq there] at owes
        cases owes
      level := by
        intro clean
        refine absurd ⟨(n, .between service.latest made), ?_, edit, there⟩ clean
        show _ ∈ service.applied
        rw [newest]
        exact List.mem_cons_self
      apart := by
        rintro _ _ _ last _
        cases newest.symm.trans last
        exact changed }

theorem Tracks.act (tracks : Tracks base service) (here : service.callers[n]? = some ⟨edit, stage⟩)
    (advance : Advance n service.toBoard stage deed board next) :
    Tracks base (service.acted board n next) := by
  have step : Step service (.act n deed) (service.acted board n next) := .act here advance
  have there := getElem?_set_here here ⟨edit, next⟩
  rcases advance.turn_cases (tracks.exclusive.own here) with ⟨turn, turn'⟩ | ⟨rfl, rfl, rfl, rfl⟩
  · cases advance with
    | commit success => exact tracks.commit here success
    | publish => exact tracks.publish here
    | orphan => exact tracks.orphan here
    | withdraw | abandon =>
      exact tracks.goOn here step turn turn' rfl rfl rfl rfl rfl (fun _ => rfl) (fun _ => rfl)
    | _ =>
      exact tracks.goOn here step turn turn' rfl rfl rfl rfl rfl
        (fun spent => by first | rfl | cases spent) nofun
  · have same {α : Type} (view : Nat → Caller → Option α) :=
      tracks.exclusive.ofHolder_set here rfl ⟨edit, .dropped⟩ view
    refine tracks.quiet step rfl rfl rfl ?_ ?_ (tracks.given_set here .dropped)
      (tracks.spent_set here fun _ => rfl)
      fun entry applied => tracks.isDropped_set here (fun _ => rfl) applied
    · unfold front
      rw [same]
    · intro entry owes
      unfold owed at owes
      rw [same] at owes
      exact owes

end Act

theorem Tracks.step (tracks : Tracks base service) (step : Step service event after)
    (survive : ∀ edit, event = .call edit → edit.RangesIn ValueRange.Survives) :
    Tracks base after := by
  cases step with
  | read =>
    exact tracks.quiet (.read service) rfl rfl rfl rfl (fun _ owes => owes) tracks.given tracks.spent
      fun _ _ dropped => dropped
  | act here advance => exact tracks.act here advance
  | call edit =>
    have same {α : Type} (view : Nat → Caller → Option α) :=
      tracks.exclusive.ofHolder_call ⟨edit, .waiting⟩ view
    refine tracks.quiet (.call service edit) rfl rfl rfl ?_ ?_ ?_ ?_ ?_
    · unfold front
      rw [same]
    · intro entry owes
      unfold owed at owes
      rw [same] at owes
      exact owes
    · intro n caller found
      rcases getElem?_append_cases found with before | ⟨_, rfl⟩
      · exact tracks.given n caller before
      · exact survive edit rfl
    · intro entry applied
      obtain ⟨caller, here, spent⟩ := tracks.spent entry applied
      exact ⟨caller, getElem?_append_of_here here _, spent⟩
    · rintro entry _ ⟨other, found⟩
      rcases getElem?_append_cases found with before | ⟨_, new⟩
      · exact ⟨other, before⟩
      · cases new

theorem Run.tracks {store : Database} (holds : store.tables.Holds base)
    (run : (first store base).Run events service)
    (survive : ∀ edit, .call edit ∈ events → edit.RangesIn ValueRange.Survives) :
    Tracks base service := by
  induction run with
  | nil => exact tracks_first holds
  | step _ step ih =>
    refine (ih fun edit asked => survive edit (List.mem_append_left _ asked)).step step ?_
    rintro edit rfl
    exact survive edit (List.mem_append_right _ List.mem_cons_self)

/-- Loading the tables gives what all applied changes make, those of dropped callers among them.
While nobody has the lock that is equal to the published registry if no caller was dropped whose
changes were applied. If the changes applied last are those of such a caller it has another
version. -/
theorem load_eq_published_unless_orphaned {store : Database} (holds : store.tables.Holds base)
    (run : (first store base).Run events service)
    (survive : ∀ edit, .call edit ∈ events → edit.RangesIn ValueRange.Survives)
    (idle : service.holder = none) :
    ∃ loaded, service.store.tables.load = .ok loaded ∧
      loaded.getD .empty = service.laid base ∧
      (¬ service.IsOrphaned → (loaded.getD .empty == service.latest) = true) ∧
      ∀ n changes rest, service.applied = (n, changes) :: rest → service.IsDropped n →
        (loaded.getD .empty).version ≠ service.latest.version := by
  have tracks := run.tracks holds survive
  obtain ⟨loaded, found, held⟩ := tracks.holds.load
  refine ⟨loaded, found, held, ?_, ?_⟩
  · intro clean
    have same := tracks.level clean
    have front : service.front = service.latest := by
      unfold front ofHolder
      rw [idle]
      rfl
    rw [front] at same
    rw [held]
    exact Registry.beq_iff_same.mpr same
  · intro n changes rest last dropped
    have version : (service.laid base).version = changes.version := by
      unfold laid
      rw [last]
      rfl
    rw [held, version]
    exact tracks.apart n changes rest last dropped

section Garden

open Registry (garden)

def pond : Location := ⟨"pond", by decide, by decide +kernel, "pond", by decide +kernel⟩

def dropping (n : Nat) (location : Location) : List Event :=
  committing n (.addLocation location) ++ [.act n .drop]

def publishing (n : Nat) (location : Location) : List Event :=
  committing n (.addLocation location) ++ [.act n .publish, .act n .release]

theorem load_eq_published_unless_orphaned_garden :
    (∃ (service : Service Database) (loaded : Option Registry),
      (first {} .empty).Run (publishing 0 garden) service ∧
        service.store.tables.load = .ok loaded ∧
        (loaded.getD .empty == service.latest) = true) ∧
    ∃ (service : Service Database) (loaded : Option Registry),
      (first {} .empty).Run (dropping 0 garden) service ∧
        service.store.tables.load = .ok loaded ∧
        (loaded.getD .empty).version ≠ service.latest.version := by
  have run : (first ({} : Database) .empty).Run (committing 0 (.addLocation garden)) _ :=
    run_committing _ rfl rfl (by decide +kernel) rfl
  constructor
  · have run := (run.step (.actLast rfl (.publish _ _ _ _))).step (.actLast rfl (.release _ _))
    obtain ⟨loaded, found, _, level, _⟩ := load_eq_published_unless_orphaned Tables.holds_empty run
      (by simp [committing, RegistryEdit.RangesIn]) rfl
    refine ⟨_, loaded, run, found, level ?_⟩
    rintro ⟨_, applied, edit, there⟩
    cases List.mem_singleton.mp applied
    cases there
  · have run := run.step (.actLast rfl (.orphan _ _ _ _))
    obtain ⟨loaded, found, _, _, apart⟩ := load_eq_published_unless_orphaned Tables.holds_empty run
      (by simp [committing, RegistryEdit.RangesIn]) rfl
    exact ⟨_, loaded, run, found, apart 0 _ [] rfl ⟨_, rfl⟩⟩

/-- One caller is dropped when the store has applied its changes, and another one comes after it. In
the end no edit is under way, and tables and published registry have one version and not one
content. -/
theorem exists_load_ne_published :
    ∃ (service : Service Database) (loaded : Option Registry),
      (first {} .empty).Run (dropping 0 garden ++ publishing 1 pond) service ∧
        (∀ caller ∈ service.callers, caller.stage.isOver = true) ∧
        service.store.tables.load = .ok loaded ∧
        (loaded.getD .empty).version = service.latest.version ∧
        (loaded.getD .empty == service.latest) = false := by
  have begun : (first ({} : Database) .empty).Run (committing 0 (.addLocation garden)) _ :=
    run_committing _ rfl rfl (by decide +kernel) rfl
  have dropped := begun.step (.actLast rfl (.orphan _ _ _ _))
  have applied := dropped.trans
    (run_committing (.addLocation pond) rfl rfl (by decide +kernel) rfl)
  have run := (applied.step (.actLast rfl (.publish _ _ _ _))).step (.actLast rfl (.release _ _))
  have tracks := run.tracks Tables.holds_empty
    (by simp [committing, RegistryEdit.RangesIn])
  obtain ⟨loaded, found, held⟩ := tracks.holds.load
  refine ⟨_, loaded, run, by decide +kernel, found, ?_, ?_⟩
  · simp only [held]
    decide +kernel
  · simp only [held]
    decide +kernel

end Garden

end HomeVoice.Service
