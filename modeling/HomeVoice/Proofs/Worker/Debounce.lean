import Mathlib.Data.List.Chain
import HomeVoice.Proofs.Worker.Timed

/-!
# The worker waits until the edits stop

A generation that nobody requested comes no earlier than the deadline of the last notice, and only
for a registry that was not taken up before. So a burst of edits has no generation within, and
where the worker is prompt exactly one follows it as soon as the edits have stopped for the quiet
time.
-/

namespace HomeVoice.Hub

namespace Mark

/-- The notices follow each other in less than the quiet time. -/
def Close (debounce : Nat) (marks : List Mark) : Prop :=
  (marks.filterMap notice?).IsChain fun notice next => next < notice + debounce

theorem mem_notices {marks : List Mark} {moment : Nat} :
    moment ∈ marks.filterMap notice? ↔ .noticed moment ∈ marks := by
  rw [List.mem_filterMap]
  constructor
  · rintro ⟨mark, member, notice⟩
    cases mark with
    | noticed _ => exact Option.some.inj notice ▸ member
    | began _ _ _ => cases notice
  · exact fun member => ⟨_, member, rfl⟩

end Mark

namespace Process

variable {allowed : Process → Event → Prop} {options : GrammarOptions} {debounce : Nat}
  {process : Process} {events : List Event} {marks : List Mark}

/-- A generation that nobody requested comes after the quiet time or is the first one, bursts of
edits have none within, and none is for a registry that had one before. -/
structure Debounced (debounce : Nat) (marks : List Mark) : Prop where
  spaced : ∀ earlier moment snapshot later,
    marks = earlier ++ .began moment snapshot none :: later →
    earlier = [] ∨
      ∃ front notice, earlier = front ++ [.noticed notice] ∧ notice + debounce ≤ moment
  coalesced : ∀ before first between last after,
    marks = before ++ .noticed first :: between ++ .noticed last :: after →
    Mark.Close debounce (.noticed first :: between ++ [.noticed last]) →
    (∀ moment snapshot request, .began moment snapshot (some request) ∉ between) →
    between.filterMap Mark.snapshot? = []
  fresh : ∀ earlier moment snapshot later,
    marks = earlier ++ .began moment snapshot none :: later →
    ∀ registry ∈ earlier.filterMap Mark.snapshot?, registry.version < snapshot.version

section Shown

variable {initial : Registry} {now : Nat}
  (timed : Timed allowed (spawn options debounce initial now) events marks process)
include timed

theorem Timed.spaced {earlier later : List Mark} {moment : Nat} {snapshot : Registry}
    (split : marks = earlier ++ .began moment snapshot none :: later) :
    earlier = [] ∨
      ∃ front notice, earlier = front ++ [.noticed notice] ∧ notice + debounce ≤ moment := by
  obtain ⟨before, event, rest, showing, shown, rfl, ran, step, shows⟩ := timed.split split
  obtain ⟨rfl, rfl, rfl, deadline, planned, due⟩ := step.began_inv shows
  refine (ran.scheduled.planned deadline planned).imp_right ?_
  rintro ⟨front, notice, rfl, rfl⟩
  exact ⟨front, notice, rfl, due⟩

theorem Timed.coalesced {before between after : List Mark} {first last : Nat}
    (split : marks = before ++ .noticed first :: between ++ .noticed last :: after)
    (close : Mark.Close debounce (.noticed first :: between ++ [.noticed last]))
    (unrequested : ∀ moment snapshot request, .began moment snapshot (some request) ∉ between) :
    between.filterMap Mark.snapshot? = [] := by
  refine List.filterMap_eq_nil_iff.mpr fun mark member => ?_
  match mark, member with
  | .noticed moment, _ => rfl
  | .began moment snapshot (some request), member =>
    exact absurd member (unrequested moment snapshot request)
  | .began moment snapshot none, member =>
    -- The notice before the generation and the one after it are too far apart.
    obtain ⟨front, back, rfl⟩ := List.append_of_mem member
    have parts : marks = (before ++ .noticed first :: front) ++
        .began moment snapshot none :: (back ++ .noticed last :: after) := by
      simp [split]
    obtain ⟨early, notice, shown, quiet⟩ := (timed.spaced parts).resolve_left (by simp)
    have final : (Mark.noticed first :: front).getLast? = some (.noticed notice) := by
      rw [← List.getLast?_append_of_ne_nil before (by simp), shown, List.getLast?_concat]
    obtain ⟨others, previous⟩ := List.getLast?_eq_some_iff.mp final
    obtain ⟨next, rest, following⟩ : ∃ next rest,
        (back ++ [Mark.noticed last]).filterMap Mark.notice? = next :: rest :=
      List.exists_cons_of_ne_nil (by simp)
    have later : moment ≤ next := by
      have ordered := (List.pairwise_append.mp (parts ▸ timed.scheduled.ordered)).2.1
      have member : Mark.noticed next ∈ back ++ [Mark.noticed last] := by
        rw [← Mark.mem_notices, following]
        exact List.mem_cons_self
      refine (List.pairwise_cons.mp ordered).1 (.noticed next) ?_
      rw [List.append_cons]
      exact List.mem_append_left after member
    have burst : Mark.noticed first :: (front ++ Mark.began moment snapshot none :: back) ++
        [Mark.noticed last] = (others ++ [.noticed notice]) ++
          .began moment snapshot none :: (back ++ [.noticed last]) := by
      simp [← previous]
    have notices : (others ++ [Mark.noticed notice] ++ Mark.began moment snapshot none ::
        (back ++ [Mark.noticed last])).filterMap Mark.notice? =
          others.filterMap Mark.notice? ++ notice :: next :: rest := by
      rw [← following]
      simp [List.filterMap_cons]
    rw [burst, Mark.Close, notices] at close
    have near := (List.isChain_append_cons_cons.mp close).2.1
    exact absurd later (Nat.not_le.mpr (Nat.lt_of_lt_of_le near quiet))

theorem Timed.fresh (ascending : (publications initial events).Pairwise fun earlier later =>
      earlier.version < later.version)
    {earlier later : List Mark} {moment : Nat} {snapshot : Registry}
    (split : marks = earlier ++ .began moment snapshot none :: later) :
    ∀ registry ∈ earlier.filterMap Mark.snapshot?, registry.version < snapshot.version := by
  intro registry begun
  obtain ⟨before, event, rest, showing, shown, rfl, ran, step, shows⟩ := timed.split split
  obtain ⟨rfl, rfl, rfl, deadline, planned, due⟩ := step.began_inv shows
  have ascending := ascending.sublist (publications_sublist initial before _)
  exact (ran.ahead ascending).newer (.inr (by simp [planned])) registry (.begun begun)

/-- When nothing but generations that nobody requested followed the last notice until its deadline
was over, there was exactly one, at that moment and for the registry that was published last. -/
theorem Timed.settles (ascending : (publications initial events).Pairwise fun earlier later =>
      earlier.version < later.version)
    (keyed : CacheKeyed events)
    (prompt : ∀ process ms, allowed process (.wait ms) → process.Rests ms)
    (running : process.phase ≠ .stopped) {earlier later : List Mark} {last : Nat}
    (split : marks = earlier ++ .noticed last :: later)
    (undisturbed : ∀ mark ∈ later, ∃ moment snapshot, mark = .began moment snapshot none)
    (passed : last + debounce < process.now) :
    ∃ before rest showing,
      events = before ++ .fire :: rest ∧
      Timed allowed (spawn options debounce initial now) before (earlier ++ [.noticed last])
        showing ∧
      (publications initial before).getLast? = some showing.latest ∧
      later = [.began (last + debounce) showing.latest none] := by
  rcases later with _ | ⟨mark, others⟩
  · have planned := timed.armed ascending keyed running split
    exact absurd (timed.punctual prompt _ planned) (Nat.not_le.mpr passed)
  · obtain ⟨moment, snapshot, rfl⟩ := undisturbed mark List.mem_cons_self
    have single : others = [] := by
      rcases others with _ | ⟨mark, others⟩
      · rfl
      · obtain ⟨next, other, rfl⟩ := undisturbed mark (by simp)
        have parts : marks = (earlier ++ [.noticed last, .began moment snapshot none]) ++
            .began next other none :: others := by simp [split]
        obtain ⟨front, notice, shown, _⟩ := (timed.spaced parts).resolve_left (by simp)
        rw [List.append_cons] at shown
        cases (List.append_inj' shown rfl).2
    subst single
    have parts : marks = (earlier ++ [.noticed last]) ++ .began moment snapshot none :: [] := by
      simp [split]
    obtain ⟨before, event, rest, showing, shown, rfl, ran, step, shows⟩ := timed.split parts
    obtain ⟨rfl, rfl, rfl, deadline, planned, due⟩ := step.began_inv shows
    obtain ⟨front, notice, same, rfl⟩ := (ran.scheduled.planned deadline planned).resolve_left
      (by simp)
    cases (List.append_inj' same rfl).2
    have moment : showing.now = last + debounce :=
      Nat.le_antisymm (ran.punctual prompt _ planned) due
    exact ⟨before, rest, showing, rfl, ran, run_latest ran.run, by rw [moment]⟩

end Shown

/-- However edits, requests and the clock go on: a generation that nobody requested comes only
after the quiet time, none comes in a burst of edits and none for a registry that had one. Where the
worker is prompt, the edits are followed by exactly one as soon as they have stopped for the quiet
time, for the registry that was published last. -/
theorem run_debounces {initial : Registry} {now : Nat}
    (timed : Timed allowed (spawn options debounce initial now) events marks process)
    (ascending : (publications initial events).Pairwise fun earlier later =>
      earlier.version < later.version) :
    Debounced debounce marks ∧
      (CacheKeyed events → (∀ process ms, allowed process (.wait ms) → process.Rests ms) →
        process.phase ≠ .stopped →
        ∀ earlier last later, marks = earlier ++ .noticed last :: later →
          (∀ mark ∈ later, ∃ moment snapshot, mark = .began moment snapshot none) →
          last + debounce < process.now →
          ∃ before rest showing,
            events = before ++ .fire :: rest ∧
            Timed allowed (spawn options debounce initial now) before (earlier ++ [.noticed last])
              showing ∧
            (publications initial before).getLast? = some showing.latest ∧
            later = [.began (last + debounce) showing.latest none]) := by
  constructor
  · constructor
    · exact fun _ _ _ _ => timed.spaced
    · exact fun _ _ _ _ _ => timed.coalesced
    · exact fun _ _ _ _ => timed.fresh ascending
  · intro keyed prompt running earlier last later
    exact timed.settles ascending keyed prompt running

/-- Two edits 300 milliseconds apart are followed by one generation, 500 milliseconds after the
second. -/
theorem run_debounces_burst :
    let edited : Registry := Registry.empty.bump
    let before : List Event := [.begin, .consult 0 (.ok none) ⟨0, 0⟩, .fire, .generate ⟨0, 0⟩,
      .publish edited, .notice, .wait 300, .publish edited.bump, .notice, .wait 500]
    let earlier : List Mark := [.began 0 .empty none, .noticed 0]
    let later : List Mark := [.began 800 edited.bump none]
    ∃ process, Timed Prompt (spawn {} 500 .empty 0) (before ++ [.fire, .wait 1])
        (earlier ++ .noticed 300 :: later) process ∧
      process.now = 801 ∧ Debounced 500 (earlier ++ .noticed 300 :: later) ∧
      ∃ ahead rest showing, before ++ [.fire, .wait 1] = ahead ++ .fire :: rest ∧
        Timed Prompt (spawn {} 500 .empty 0) ahead (earlier ++ [.noticed 300]) showing ∧
        (publications .empty ahead).getLast? = some showing.latest ∧
        later = [.began (300 + 500) showing.latest none] := by
  intro edited before earlier later
  let begun := (spawn {} 500 .empty 0).look (spawn {} 500 .empty 0).worker (.consulting .empty)
  have failed : Registry.empty.generate {} ⟨0, 0⟩ = .error (.configuration .emptyRegistry) := rfl
  have consulted : Timed Prompt (spawn {} 500 .empty 0)
      [.begin, .consult 0 (.ok none) ⟨0, 0⟩] [] _ :=
    .step (.step .nil (.begin rfl) trivial) (@Step.consult begun .empty rfl _ _) trivial
  have attempted := (consulted.step (@Step.fire _ 0 rfl rfl (Nat.le_refl 0) rfl) trivial).step
    (.fail rfl failed) trivial
  have noticed := (attempted.step (.publish _ edited) trivial).step (.notice rfl rfl) trivial
  have delayed := noticed.step (.wait _ 300)
    ⟨rfl, rfl, fun _ same => Option.some.inj same ▸ by decide⟩
  have again := (delayed.step (.publish _ edited.bump) trivial).step (.notice rfl rfl) trivial
  have quiet := again.step (.wait _ 500)
    ⟨rfl, rfl, fun _ same => Option.some.inj same ▸ by decide⟩
  have fired := quiet.step (@Step.fire _ 800 rfl rfl (Nat.le_refl 800) rfl) trivial
  have timed : Timed Prompt (spawn {} 500 .empty 0) (before ++ [.fire, .wait 1])
      (earlier ++ .noticed 300 :: later) _ := fired.step (.wait _ 1) trivial
  have ascending : (publications .empty (before ++ [.fire, .wait 1])).Pairwise
      fun earlier later => earlier.version < later.version := by
    refine List.pairwise_map.mp ?_
    show [0, 1, 2].Pairwise (· < ·)
    decide
  have keyed : CacheKeyed (before ++ [.fire, .wait 1]) := by
    intro version artifact time happens
    simp [before] at happens
  obtain ⟨debounced, settled⟩ := run_debounces timed ascending
  refine ⟨_, timed, rfl, debounced,
    settled keyed (fun _ _ rests => rests) nofun earlier 300 later rfl ?_ (by decide)⟩
  intro mark member
  exact ⟨_, _, List.mem_singleton.mp member⟩

end Process

end HomeVoice.Hub
