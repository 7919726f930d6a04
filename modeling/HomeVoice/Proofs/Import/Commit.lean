import HomeVoice.Proofs.Import.Merging
import HomeVoice.Proofs.Service.Course

/-!
# An import is committed once or not at all

No registry refuses a batch, so an import fails only where the store refuses its changes. Whatever
else is under way: the whole batch is one change for the store and one registry for the readers, or
none if nothing changes, and as long as nothing of it is committed everything is as it was before.
-/

namespace HomeVoice

open Hub (RegistryEdit)

namespace Registry

variable {registry : Registry} {batch : List ImportedDevice}

/-- To import the item changes nothing. -/
def Has (registry : Registry) (item : ImportedDevice) : Prop :=
  ∃ report, registry.importItem {} item = .ok (registry, report)

theorem Sound.received_of_has (sound : registry.Sound) {item : ImportedDevice}
    (has : registry.Has item) : registry.received item = registry := by
  obtain ⟨report, same⟩ := has
  exact congrArg Prod.fst (Except.ok.inj ((sound.importItem_eq {} item).symm.trans same))

/-- A batch of which no item changes anything changes nothing. -/
theorem Sound.imported_of_has (sound : registry.Sound)
    (has : ∀ item ∈ batch, registry.Has item) : (registry.imported batch).1 = registry := by
  induction batch using List.reverseRecOn with
  | nil => rfl
  | append_singleton batch item ih =>
    have ⟨before, last⟩ := List.forall_mem_append.mp has
    rw [imported_concat, ih before]
    exact sound.received_of_has (List.forall_mem_singleton.mp last)

end Registry

namespace Service

/-- What became of an import that found this when it got the lock: what it has done, what is shared
now and its stage. -/
structure Imports {σ : Type} [Storage σ] (batch : List ImportedDevice) (found : Board σ)
    (deeds : List Deed) (board : Board σ) (stage : Stage (.importDevices batch)) : Prop where
  done : ∃ report next, (RegistryEdit.importDevices batch).run found.latest = .ok (report, next)
  once : deeds.count .commit ≤ 1 ∧ deeds.count .publish ≤ 1
  /-- Where nothing changes the store is not even asked. -/
  quiet : (∀ item ∈ batch, found.latest.Has item) →
    (.commit ∉ deeds ∧ ∀ cause, .refuse cause ∉ deeds) ∧ .publish ∉ deeds
  /-- It fails only where the store has refused its changes. -/
  failed : ∀ error, stage.result? = some (.error error) →
    (∃ cause, error = .storage cause ∧ .refuse cause ∈ deeds) ∧ .commit ∉ deeds ∧ .publish ∉ deeds
  /-- Before the store has applied anything, all that is shared is as the import found it. -/
  same : .commit ∉ deeds → stage.isCritical = true → board = found

section Run

variable {σ : Type} [Storage σ] {registry : Registry} {batch : List ImportedDevice} {n : Nat}
  {found board : Board σ} {deeds : List Deed} {stage : Stage (.importDevices batch)}

theorem Course.imports (course : Course n found deeds board stage) (sound : found.latest.Sound) :
    Imports batch found ([.acquire] ++ deeds) board stage where
  done := ⟨_, _, sound.run_importDevices batch⟩
  once := by simpa using course.count_le
  quiet has := by
    have still : ∀ report next,
        (RegistryEdit.importDevices batch).run found.latest = .ok (report, next) →
          next.version = found.latest.version := by
      intro report next done
      cases (sound.run_importDevices batch).symm.trans done
      rw [sound.imported_of_has has]
    simpa using course.not_mem still
  failed error fails := by
    obtain ⟨reason, silent⟩ := course.of_error fails
    refine ⟨?_, by simpa using silent⟩
    rcases reason with rejected | ⟨cause, same, refused⟩
    · cases (sound.run_importDevices batch).symm.trans rejected
    · exact ⟨cause, same, List.mem_append_right _ refused⟩
  same silent critical := course.eq_of_not_mem (by simpa using silent) critical

/-- Every import of every run waits for the lock, or was dropped while it waited, or it got the lock
and was taken in by the registry as a whole. -/
theorem run_imports (reached : registry.Reachable) (batch : List ImportedDevice) :
    (∃ report next, (RegistryEdit.importDevices batch).run registry = .ok (report, next)) ∧
    ∀ (store : σ) (events : List Event) (service : Service σ) (n : Nat)
      (stage : Stage (.importDevices batch)), (first store registry).Run events service →
      service.callers[n]? = some ⟨.importDevices batch, stage⟩ →
      (deedsOf n events = [] ∧ stage = .waiting ∨ deedsOf n events = [.drop] ∧ stage = .dropped) ∨
      ∃ earlier later before,
        Begun store registry events service n (.importDevices batch) earlier later before ∧
        Imports batch before.toBoard (deedsOf n events) service.toBoard stage := by
  refine ⟨⟨_, _, reached.sound.run_importDevices batch⟩, ?_⟩
  intro store events service n stage run here
  refine (run.begun_cases here).imp_right ?_
  rintro ⟨earlier, later, before, begun⟩
  refine ⟨earlier, later, before, begun, ?_⟩
  obtain ⟨_, there, course⟩ := begun.run.course begun.reached.exclusive begun.locked
  cases here.symm.trans there
  rw [begun.split, deedsOf_append, begun.deeds]
  exact course.imports (begun.reached.sound reached.sound)

end Run

section Delivery

open Registry (delivery)

/-- A delivery is refused by the store, and when it is imported again it is not. -/
def deliveries : List Event :=
  [.call (.importDevices delivery), .act 0 .acquire, .act 0 .copy, .act 0 .apply,
    .act 0 (.refuse .database), .act 0 .release] ++
    committing 1 (.importDevices delivery) ++ [.act 1 .publish, .act 1 .release]

theorem run_imports_deliveries :
    ∃ (service : Service Store.Memory) (report : ImportReport),
      (first {} .empty).Run deliveries service ∧
      service.callers[0]? =
        some ⟨.importDevices delivery, .returned (.error (.storage .database))⟩ ∧
      service.callers[1]? = some ⟨.importDevices delivery, .returned (.ok report)⟩ ∧
      service.published.length = 2 ∧
      ∀ n stage, service.callers[n]? = some ⟨.importDevices delivery, stage⟩ →
        ∃ earlier later before,
          Begun {} .empty deliveries service n (.importDevices delivery) earlier later before ∧
          Imports delivery before.toBoard (deedsOf n deliveries) service.toBoard stage := by
  have reached : Registry.empty.Reachable := ⟨.empty, [], .new, rfl⟩
  have done := reached.sound.run_importDevices delivery
  have changed : (Registry.empty.imported delivery).1.version ≠ Registry.empty.version := by
    decide +kernel
  have refused : (first ({} : Store.Memory) .empty).Run _ _ :=
    .cons (.call _ _) <| .cons (.actLast rfl (.acquire rfl)) <| .cons (.actLast rfl (.copy _)) <|
      .cons (.actLast rfl (.apply done changed)) <|
      .cons (.actLast rfl (.refuse _ _ _ _ .database)) <| .cons (.actLast rfl (.release _ _)) .nil
  have again := refused.trans (run_committing (.importDevices delivery) rfl done changed rfl)
  have run := (again.step (.actLast rfl (.publish _ _ _ _))).step (.actLast rfl (.release _ _))
  refine ⟨_, _, run, rfl, rfl, rfl, fun n stage here => ?_⟩
  refine ((run_imports reached delivery).2 {} _ _ n stage run here).resolve_left ?_
  rintro (⟨_, rfl⟩ | ⟨_, rfl⟩) <;> rcases n with _ | _ | n <;> cases here

end Delivery

end Service

end HomeVoice
