import HomeVoice.Proofs.Registry.Entry
import HomeVoice.Proofs.System.Durability

/-!
# One device in the system

As long as nobody edits a device, the registry has it as it is until the system starts again. The
tables have what was published, so a start finds the device again if the bounds of its range survive
being written and read. The tables have it with the same signs of its zeros if it was written for
what was answered, and perhaps with others if there was no change.
-/

namespace HomeVoice

open Hub (RegistryEdit)
open Store (Database)

namespace System

variable {system after : System Database} {event : Event Database} {id : DeviceId}

/-- The step is no edit that concerns the device. -/
def Event.Leaves (id : DeviceId) : Event Database → Prop
  | .edit change => ¬ change.Concerns id
  | _ => True

/-- The step is no start. -/
def Event.GoesOn : Event Database → Prop
  | .restart _ _ => False
  | _ => True

theorem Unprompted.keepsTables (alone : system.Unprompted event) : KeepsTables system event := by
  cases event with
  | work event => trivial
  | _ => cases alone

theorem Unprompted.leaves (alone : system.Unprompted event) (id : DeviceId) : event.Leaves id := by
  cases event with
  | work event => trivial
  | _ => cases alone

/-- The worker leaves the registry by itself. -/
theorem registry_of_unprompted (reached : Reachable Unprompted system after) :
    after.registry = system.registry := by
  induction reached with
  | start => rfl
  | step _ step alone ih =>
    cases step.effect alone.keepsTables.undisturbed with
    | rest registry _ _ => exact registry.trans ih
    | commit asked _ _ _ =>
      subst asked
      cases alone
    | boot asked _ =>
      subst asked
      cases alone

/-- A call takes no edits of a device if it is none. -/
theorem leaves_of_takes {call : Hub.Call Database} (takes : call.Takes system event)
    (apart : ∀ edit, call = .edit edit → ¬ edit.Concerns id) : event.Leaves id := by
  cases event with
  | edit edit => exact apart edit (Hub.Call.eq_of_takes_edit takes)
  | _ => trivial

theorem goesOn_of_takes {call : Hub.Call Database} (takes : call.Takes system event)
    (goesOn : ∀ settings, call ≠ .restart settings) : event.GoesOn := by
  cases event with
  | restart options debounce =>
    obtain ⟨settings, asked⟩ := Hub.Call.exists_of_takes_restart takes
    exact goesOn settings asked
  | _ => trivial

theorem get?_of_step (sound : system.registry.Sound) (step : Step system event after)
    (undisturbed : Undisturbed system event) (leaves : event.Leaves id) (goesOn : event.GoesOn) :
    after.registry.get? id = system.registry.get? id := by
  cases step.effect undisturbed with
  | rest registry _ _ => rw [registry]
  | commit asked done _ _ =>
    subst asked
    exact RegistryEdit.get?_of_run sound done leaves
  | boot asked _ =>
    subst asked
    cases goesOn

theorem get?_of_reachable (sound : system.registry.Sound)
    (reached : Reachable (fun system event => Undisturbed system event ∧ event.Leaves id ∧
      event.GoesOn) system after) : after.registry.get? id = system.registry.get? id := by
  induction reached with
  | start => rfl
  | step before step allowed ih =>
    obtain ⟨undisturbed, leaves, goesOn⟩ := allowed
    have kept := sound_of_reachable (before.mono fun _ _ allowed => allowed.1) sound
    exact (get?_of_step kept step undisturbed leaves goesOn).trans ih

/-- The registry has the device, and so have the tables. -/
structure Carries (system : System Database) (device : Device) (exact : Prop) (stored : Registry) :
    Prop extends system.Stores stored where
  published : system.registry.HasDevice device exact
  written : stored.HasDevice device exact

variable {device : Device} {exact : Prop} {stored : Registry}

/-- What the tables load as has the device. -/
theorem Carries.hasDevice_of_load (carries : system.Carries device exact stored)
    {loaded : Option Registry} (found : system.store.tables.load = .ok loaded) :
    (loaded.getD .empty).HasDevice device exact := by
  have same := found.symm.trans carries.load
  split at same
  next fresh =>
    obtain ⟨own, present, _⟩ := carries.published
    rw [carries.fresh fresh] at present
    cases present
  next =>
    cases same
    exact carries.written

theorem Carries.step (carries : system.Carries device exact stored)
    (step : Step system event after) (kept : KeepsTables system event)
    (leaves : event.Leaves device.id) : ∃ stored, after.Carries device exact stored := by
  cases step.effect kept.undisturbed with
  | rest registry commits rows =>
    exact ⟨stored, carries.frame rows registry commits, registry ▸ carries.published,
      carries.written⟩
  | @commit _ _ next _ asked done _ committed =>
    subst asked
    have same := RegistryEdit.get?_of_run carries.sound done leaves
    obtain ⟨count, _, changes⟩ :=
      RegistryEdit.changes_of_run carries.sound carries.ranges kept done
    have stores := carries.toStores.commit changes committed
    obtain ⟨own, found, _⟩ := carries.published
    have unchanged : (system.registry.get? device.id == some own) = true := by
      rw [found]
      exact Device.beq_iff.mpr rfl
    have left := @Changeset.get?_overlay system.registry next stored stores.sound.owned device.id
      own (same.trans found)
    rw [if_pos unchanged] at left
    exact ⟨_, stores, carries.published.congr same, carries.written.congr left⟩
  | boot _ found =>
    exact ⟨stored, carries.toStores.restart _ _ found, carries.hasDevice_of_load found,
      carries.written⟩

theorem Carries.reachable (carries : system.Carries device exact stored)
    (reached : Reachable (fun system event => KeepsTables system event ∧ event.Leaves device.id)
      system after) : ∃ stored, after.Carries device exact stored := by
  induction reached with
  | start => exact ⟨stored, carries⟩
  | step _ step allowed ih =>
    obtain ⟨stored, carries⟩ := ih
    exact carries.step step allowed.1 allowed.2

end System

namespace Hub

variable {hub : Hub Database} {system : System Database} {edit : DeviceEdit} {device : Device}

/-- What an edit of a hub answered is what its registry has then. -/
theorem hasDevice_of_edit (owned : hub.registry.OwnsIds)
    (answered : (hub.edit edit.run).1 = .ok device) :
    (hub.edit edit.run).2.registry.HasDevice device (device.AvoidsZero ∨
      (hub.edit edit.run).2.registry.version ≠ hub.registry.version ∨ edit ≠ .upsert device) := by
  rcases hub.edit_cases edit.run with ⟨error, failed⟩ | ⟨answer, next, done, success, ended⟩
  · rw [failed] at answered
    cases answered
  · cases answered.symm.trans success
    have holds := DeviceEdit.hasDevice_of_run owned done
    rcases ended with ⟨same, version⟩ | ⟨published, _⟩
    · obtain ⟨_, ⟨changed, _⟩ | ⟨unchanged, _⟩⟩ := DeviceEdit.run_cases owned done
      · exact absurd version changed
      · rw [unchanged] at holds
        rwa [same]
    · rwa [published]

/-- The device that a committed edit answered is written to registry and tables. -/
theorem carries_commit {stored next : Registry} {store : Database} (stores : system.Stores stored)
    (survive : edit.edit.RangesIn ValueRange.Survives)
    (done : edit.run system.registry = .ok (device, next))
    (changed : next.version ≠ system.registry.version)
    (committed : system.store.tables.commit (.between system.registry next) = .ok store.tables)
    (exact : Prop) : ∃ stored, (system.commit next store).Carries device exact stored := by
  obtain ⟨outcome, run⟩ := DeviceEdit.exists_run done
  obtain ⟨count, _, changes⟩ := RegistryEdit.changes_of_run stores.sound stores.ranges survive run
  have carried := stores.commit changes committed
  obtain ⟨own, ⟨_, written, differs⟩ | ⟨same, _⟩⟩ := DeviceEdit.run_cases stores.sound.owned done
  · rw [← own] at written differs
    have laid := @Changeset.get?_overlay system.registry next stored carried.sound.owned device.id
      device written
    rw [differs] at laid
    exact ⟨_, carried, ⟨device, written, rfl, fun _ => rfl⟩, device, laid, rfl, fun _ => rfl⟩
  · exact absurd (congrArg Registry.version same) changed

/-- An edit that was answered leaves the device in registry and tables. -/
theorem Represents.carries (represents : hub.Represents system) {stored : Registry}
    (stores : system.Stores stored) (survive : edit.edit.RangesIn ValueRange.Survives)
    (answered : (hub.edit edit.run).1 = .ok device) :
    ∃ after stored, (hub.edit edit.run).2.Represents after ∧
      after.Carries device (device.AvoidsZero ∨
        (hub.edit edit.run).2.registry.version ≠ hub.registry.version) stored := by
  have registry := represents.registry
  have holds := hasDevice_of_edit (registry ▸ stores.sound.owned) answered
  have same : (hub.edit edit.edit.run).2 = (hub.edit edit.run).2 := by cases edit <;> rfl
  rcases hub.edit_cases edit.run with ⟨error, failed⟩ | ⟨answer, next, done, success, ended⟩
  · rw [failed] at answered
    cases answered
  cases answered.symm.trans success
  rcases ended with ⟨unchanged, _⟩ | ⟨published, changed⟩
  · rw [unchanged] at holds ⊢
    have avoids : device.AvoidsZero ∨ hub.registry.version ≠ hub.registry.version →
        device.AvoidsZero := fun exact => exact.resolve_right (not_not.mpr rfl)
    refine ⟨system, stored, represents, stores, ?_, (holds.of_same ?_).mono avoids⟩
    · rw [registry]
      exact holds.mono (.imp_right .inl)
    · rw [← registry]
      exact stores.same
  · obtain ⟨later, taken, represented⟩ := represents.settle_edit edit.edit
    rw [same] at represented
    rw [← registry] at done changed
    -- What the hub has published is what the system commits.
    have kept := (System.registry_of_unprompted taken).symm.trans
      (represented.registry.trans published)
    rcases system.edit_cases edit.edit with idle | ⟨outcome, next, store, _, _, committed, edited⟩
    · rw [idle] at kept
      exact absurd (congrArg Registry.version kept.symm) changed
    · rw [edited] at taken kept
      cases kept
      obtain ⟨stored, carries⟩ := carries_commit stores survive done changed
        (Database.commit_eq_ok committed) (device.AvoidsZero ∨
          (hub.edit edit.run).2.registry.version ≠ hub.registry.version)
      obtain ⟨stored, carries⟩ := carries.reachable
        (taken.mono fun _ _ alone => ⟨alone.keepsTables, alone.leaves device.id⟩)
      exact ⟨later, stored, represented, carries⟩

end Hub

end HomeVoice
