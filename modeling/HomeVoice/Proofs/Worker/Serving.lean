import HomeVoice.Proofs.Grammar.Commands
import HomeVoice.Proofs.Worker.Progress

/-!
# The serving grammar never goes away and never goes back

The active grammar is the one that the last successful attempt published, and the attempts of a run
are made for registries whose versions do not go down. So once a grammar serves there is always
one, later ones are never older, and an attempt that fails leaves the grammar that serves in its
place.
-/

namespace HomeVoice.Hub.Process

open Time (Timestamp)

variable {options : GrammarOptions} {process after : Process} {event : Event}

/-- An event ends one attempt or none, and the active grammar changes with what the attempt
publishes only. -/
theorem Step.attempts_cases (step : Step process event after) :
    (after.attempts = process.attempts ∧ after.worker.artifact = process.worker.artifact) ∨
      ∃ attempt, after.attempts = attempt :: process.attempts ∧
        after.worker.artifact = attempt.published.or process.worker.artifact := by
  have ends : ∀ snapshot request result time,
      after = process.conclude snapshot request result time →
      ∃ attempt, after.attempts = attempt :: process.attempts ∧
        after.worker.artifact = attempt.published.or process.worker.artifact := by
    rintro snapshot request result time rfl
    exact ⟨⟨snapshot, result.toOption⟩, rfl, Worker.conclude_artifact ..⟩
  cases step with
  | @consult snapshot consulting answer time =>
    rw [consult_eq] at ends ⊢
    cases accepted : process.worker.accepted answer with
    | none => exact .inl ⟨rfl, rfl⟩
    | some artifact =>
      rw [accepted] at ends
      exact .inr (ends snapshot none (.ok artifact) time rfl)
  | notice waiting unseen =>
    refine .inl ⟨rfl, ?_⟩
    show (process.worker.noticeEdit process.now).artifact = _
    unfold Worker.noticeEdit
    split <;> rfl
  | fail generating failed => exact .inr (ends _ _ _ _ rfl)
  | abort generating time => exact .inr (ends _ _ _ _ rfl)
  | store storing kept time => exact .inr (ends _ _ _ _ rfl)
  | _ => exact .inl ⟨rfl, rfl⟩

/-- No attempt is forgotten. -/
theorem Run.attempts {later : List Event} (run : Run process later after) :
    ∃ recent, after.attempts = recent ++ process.attempts := by
  induction run with
  | nil => exact ⟨[], rfl⟩
  | step before step ih =>
    obtain ⟨recent, attempts⟩ := ih
    rcases step.attempts_cases with ⟨same, _⟩ | ⟨attempt, more, _⟩
    · exact ⟨recent, same.trans attempts⟩
    · exact ⟨attempt :: recent, by rw [more, attempts, List.cons_append]⟩

/-- From one state of a run to a later one: the grammar that serves then has the configured
options, and if one served before it is no newer. -/
structure GoesOnServing (options : GrammarOptions) (process after : Process) : Prop where
  configured : ∀ artifact, after.worker.artifact = some artifact → artifact.options = options
  serving : ∀ artifact, process.worker.artifact = some artifact →
    ∃ later, after.worker.artifact = some later ∧ artifact.sourceVersion ≤ later.sourceVersion

/-- An event exchanges the grammar that serves only if it ends an attempt that publishes another
one; an attempt that fails leaves it. -/
structure ExchangedBySuccess (process after : Process) : Prop where
  success : after.worker.artifact ≠ process.worker.artifact →
    ∃ snapshot artifact, after.attempts = ⟨snapshot, some artifact⟩ :: process.attempts ∧
      after.worker.artifact = some artifact
  failure : ∀ snapshot, after.attempts = ⟨snapshot, none⟩ :: process.attempts →
    after.worker.artifact = process.worker.artifact

theorem Step.exchangedBySuccess (step : Step process event after) :
    ExchangedBySuccess process after := by
  rcases step.attempts_cases with ⟨same, kept⟩ | ⟨⟨snapshot, published⟩, more, active⟩
  · constructor
    · exact fun changed => absurd kept changed
    · intro snapshot more
      exact absurd (congrArg List.length (same.symm.trans more)) (by simp)
  · constructor
    · intro changed
      cases published with
      | none => exact absurd active changed
      | some artifact => exact ⟨snapshot, artifact, more, active⟩
    · intro failed lost
      obtain ⟨rfl, rfl⟩ := Attempt.mk.inj (List.cons.inj (more.symm.trans lost)).1
      exact active

section Coherent

variable {published : List Registry} {events : List Event}

/-- The active grammar has the version of the registry for which an attempt published it. -/
theorem Coherent.exists_attempt (coherent : Coherent options published events process)
    {artifact : Artifact} (active : process.worker.artifact = some artifact) :
    ∃ attempt ∈ process.attempts, artifact.sourceVersion = attempt.snapshot.version ∧
      artifact.options = options := by
  rw [coherent.serving] at active
  obtain ⟨attempt, member, made⟩ := List.exists_of_findSome?_eq_some active
  obtain ⟨version, configured, _⟩ := coherent.origins attempt member artifact made
  exact ⟨attempt, member, version, configured⟩

/-- What was published after some attempts is no older than what they published. -/
theorem Coherent.goesOnServing (before : Coherent options published events process)
    (coherent : Coherent options published events after) {recent : List Attempt}
    (attempts : after.attempts = recent ++ process.attempts) :
    GoesOnServing options process after where
  configured artifact active := by
    obtain ⟨_, _, _, configured⟩ := coherent.exists_attempt active
    exact configured
  serving artifact active := by
    have serving := coherent.serving
    rw [attempts, List.findSome?_append, ← before.serving, active] at serving
    cases found : recent.findSome? (·.published) with
    | none => exact ⟨artifact, by rw [serving, found]; rfl, UInt64.le_refl _⟩
    | some later =>
      refine ⟨later, by rw [serving, found]; rfl, ?_⟩
      obtain ⟨attempt, member, version, _⟩ := before.exists_attempt active
      obtain ⟨newer, fresh, made⟩ := List.exists_of_findSome?_eq_some found
      have origin := coherent.origins newer (attempts ▸ List.mem_append_left _ fresh) later made
      have ordered := coherent.ordered
      rw [attempts] at ordered
      rw [version, origin.1]
      exact (List.pairwise_append.mp ordered).2.2 newer fresh attempt member

end Coherent

/-- However a run goes on: a grammar that serves is followed by none but grammars of the same or
newer versions, all with the configured options, and it is exchanged only where an attempt
succeeds. -/
theorem run_keeps_serving {debounce now : Nat} {initial : Registry} {earlier later : List Event}
    (reached : Run (spawn options debounce initial now) earlier process)
    (run : Run process later after)
    (ascending : (publications initial (earlier ++ later)).Pairwise fun older newer =>
      older.version < newer.version)
    (keyed : CacheKeyed (earlier ++ later)) :
    GoesOnServing options process after ∧
      ∀ event next, Step after event next → ExchangedBySuccess after next := by
  constructor
  · have first := ascending.sublist (publications_sublist initial earlier later)
    have before := coherent_of_run reached first
      (fun event member => List.mem_append_left later member) keyed
    have coherent := coherent_of_run (reached.trans run) ascending (fun _ member => member) keyed
    obtain ⟨recent, attempts⟩ := run.attempts
    exact before.goesOnServing coherent attempts
  · exact fun _ _ step => step.exchangedBySuccess

/-- A cached grammar of the first registry serves, then one that is generated for the second, and
that one goes on serving when the attempt that is requested for the third, which has no devices,
fails. -/
theorem run_keeps_serving_rooms :
    let cached : Artifact := ⟨"", .empty, .empty, .empty, ⟨0, 0⟩, 0, {}⟩
    let deserted : Registry := { Registry.empty with version := 9 }
    ∃ registry artifact process after next,
      Registry.rooms = .ok registry ∧
      Run (spawn {} 500 .empty 0) [.begin, .consult 0 (.ok (some cached)) ⟨0, 0⟩] process ∧
      Run process [.publish registry, .notice, .wait 500, .fire, .generate ⟨0, 0⟩,
        .store true ⟨0, 0⟩, .publish deserted, .request, .serve] after ∧
      Step after (.generate ⟨0, 0⟩) next ∧
      GoesOnServing {} process after ∧ ExchangedBySuccess after next ∧
      process.worker.artifact = some cached ∧ after.worker.artifact = some artifact ∧
      next.worker.artifact = some artifact ∧ artifact.sourceVersion = 7 := by
  intro cached deserted
  have parts : (Registry.rooms.toOption.bind fun registry =>
      (registry.generate {} ⟨0, 0⟩).toOption.map fun _ => registry.version) = some 7 := by
    decide +kernel
  obtain ⟨registry, restored, parts⟩ := Option.bind_eq_some_iff.mp parts
  obtain ⟨artifact, made, version⟩ := exists_of_toOption_map parts
  let begun := (spawn {} 500 .empty 0).look (spawn {} 500 .empty 0).worker (.consulting .empty)
  let served := begun.consult .empty (.ok (some cached)) ⟨0, 0⟩
  have reached : Run (spawn {} 500 .empty 0) [.begin, .consult 0 (.ok (some cached)) ⟨0, 0⟩]
      served :=
    .step (.step .nil (.begin rfl)) (@Step.consult begun .empty rfl _ _)
  have stale : (some cached).any (fun artifact =>
      artifact.sourceVersion == registry.version && artifact.options == {}) = false := by
    rw [version]
    decide
  have noticed := (((@Run.nil served).step (.publish _ registry)).step (.notice rfl rfl)).step
    (.wait _ 500)
  have fired := noticed.step (@Step.fire _ 500 rfl rfl (Nat.le_refl 500) stale)
  have exchange : ∃ renewed, Run served [.publish registry, .notice, .wait 500, .fire,
      .generate ⟨0, 0⟩, .store true ⟨0, 0⟩] renewed ∧ renewed.phase = .waiting ∧
      renewed.queue = [] ∧ renewed.worker.options = {} ∧ renewed.worker.artifact = some artifact :=
    ⟨_, (fired.step (.generate rfl made)).step (.store rfl true ⟨0, 0⟩), rfl, rfl, rfl, rfl⟩
  obtain ⟨renewed, renewal, waiting, unrequested, configured, active⟩ := exchange
  let asked := (renewed.publish deserted).enqueue
  let busy : Process :=
    { asked.look asked.unplanned (.generating deserted (some renewed.requested)) with queue := [] }
  have requested : Run served _ asked :=
    (renewal.step (.publish _ deserted)).step (.request (by simp [publish, waiting]))
  have queue : asked.queue = [renewed.requested] := by
    show renewed.queue ++ [renewed.requested] = _
    rw [unrequested, List.nil_append]
  have run : Run served _ busy := requested.step (@Step.serve asked _ [] waiting queue)
  have failed : deserted.generate busy.worker.options ⟨0, 0⟩ =
      .error (.configuration .emptyRegistry) := by
    show deserted.generate renewed.worker.options ⟨0, 0⟩ = _
    rw [configured]
    rfl
  have step := @Step.fail busy _ _ _ ⟨0, 0⟩ rfl failed
  have ascending : (publications .empty ([.begin, .consult 0 (.ok (some cached)) ⟨0, 0⟩] ++
      [.publish registry, .notice, .wait 500, .fire, .generate ⟨0, 0⟩, .store true ⟨0, 0⟩,
        .publish deserted, .request, .serve])).Pairwise fun older newer =>
          older.version < newer.version := by
    refine List.pairwise_map.mp ?_
    show [0, registry.version, 9].Pairwise (· < ·)
    rw [version]
    decide
  have keyed : CacheKeyed ([.begin, .consult 0 (.ok (some cached)) ⟨0, 0⟩] ++
      [.publish registry, .notice, .wait 500, .fire, .generate ⟨0, 0⟩, .store true ⟨0, 0⟩,
        .publish deserted, .request, .serve]) := by
    intro version artifact time happens
    simp only [List.cons_append, List.nil_append, List.mem_cons, List.not_mem_nil, or_false,
      reduceCtorEq, false_or, Event.consult.injEq, Except.ok.injEq, Option.some.injEq] at happens
    obtain ⟨rfl, rfl, _⟩ := happens
    rfl
  obtain ⟨serving, exchanged⟩ := run_keeps_serving reached run ascending keyed
  refine ⟨registry, artifact, _, _, _, toOption_eq_some.mp restored, reached, run, step, serving,
    exchanged _ _ step, rfl, active, active, ?_⟩
  exact (Registry.generate_sourceVersion made).trans version

end HomeVoice.Hub.Process
