import HomeVoice.Proofs.Registry.Runs

/-!
# Changesets along a run of edits

Edits take nothing away and change no vocabulary, so what a changeset can say is all that a run of
edits can do. The changes between two registries of a run lead from the first to the second, there
is nothing in them that could be left out, and changes laid over one another come to the changes
between the ends. A run that undoes what it has done leaves no entry, though the version has risen.
-/

namespace HomeVoice

/-- The changes lead from one registry to another. They say of each device, type and location once
at most what becomes of it, nothing that is so already, and nothing that other changes between the
two could do without. -/
structure Changeset.Exact (changes : Changeset) (before after : Registry) : Prop where
  leads : (changes.overlay before == after) = true
  devices : ∀ device ∈ changes.devices, (before.get? device.id == some device) = false
  customTypes : ∀ entry ∈ changes.customTypes, before.vocabulary entry.1 = none
  locations : ∀ location ∈ changes.locations, before.knowsLocation location = false
  deviceOrder : changes.devices.Pairwise fun first second => first.id < second.id
  typeOrder : changes.customTypes.Pairwise fun first second => first.1 < second.1
  locationOrder : changes.locations.Pairwise (· < ·)
  least : ∀ others : Changeset, (others.overlay before == after) = true → changes.Within others

namespace Registry

open Changeset (between)

variable {before after registry : Registry}

theorem Extends.exact_between (extension : after.Extends before) (sound : after.Sound) :
    (between before after).Exact before after where
  leads := beq_iff_same.mpr (Changeset.overlay_between extension sound (.refl before))
  devices device listed := by
    obtain ⟨⟨id, _⟩, differs⟩ := Changeset.mem_devices_between.mp listed
    exact differs
  customTypes entry listed := by
    have unknown := (Changeset.mem_customTypes_between.mp listed).2.2
    rw [← Bool.not_eq_true, knowsType_iff, not_exists] at unknown
    exact Option.eq_none_iff_forall_ne_some.mpr unknown
  locations location listed := (Changeset.mem_locations_between.mp listed).2
  deviceOrder := sound.owned.pairwise_values.filter _
  typeOrder := after.declaredTypes.ascending.filter _
  locationOrder := (List.pairwise_map.mpr after.locations.ascending).filter _
  least _ leads := Changeset.within_of_overlay sound.owned (beq_iff_same.mp leads)

/-- The changes between registries of a run are exact, there are none exactly if the registries
differ in their versions at most, and of two runs in a row the changes can be laid over one
another. -/
theorem between_is_exact (reached : registry.Reachable) (operations later : List Operation) :
    let next := registry.afterAll operations
    let last := next.afterAll later
    (between registry next).Exact registry next ∧
    ((between registry next).isEmpty = true ↔
      ({ registry with version := next.version } == next) = true) ∧
    ((between next last).overlay ((between registry next).overlay registry) ==
      (between registry last).overlay registry) = true := by
  intro next last
  have ⟨sound, extension⟩ := reached.sound.afterAll operations
  have ⟨lastSound, lastExtension⟩ := sound.afterAll later
  refine ⟨extension.exact_between sound, ?_, ?_⟩
  · rw [beq_iff_same]
    exact Changeset.isEmpty_between_iff extension sound
  · rw [beq_iff_same]
    have first := Changeset.overlay_between extension sound (.refl registry)
    have both := Changeset.overlay_between lastExtension lastSound first
    have once := Changeset.overlay_between (lastExtension.trans extension) lastSound (.refl registry)
    exact both.trans once.symm

section Undone

def terrace : Location := ⟨"terrace", by decide, by decide +kernel, "terrace", by decide +kernel⟩

/-- The hose is put away, and there is a terrace. -/
def puttingAway : List Operation := [.setEnabled hose.id false, .addLocation terrace]

/-- The hose is taken out again, which leaves the terrace. -/
def takingOut : List Operation := [.setEnabled hose.id true]

theorem between_is_exact_hose :
    ∃ registry, Registry.restore 3 [(sprinkler, [.on, .off, .on])] [garden] [hose] = .ok registry ∧
      let away := registry.afterAll puttingAway
      let out := away.afterAll takingOut
      registry.Reachable ∧ (between registry away).Exact registry away ∧
      (between registry away).devices.map (·.enabled) = [false] ∧
      (between registry out).devices.isEmpty = true ∧ (between registry out).locations = [terrace] ∧
      ((between away out).overlay ((between registry away).overlay registry) ==
        (between registry out).overlay registry) = true := by
  have parts : (Registry.restore 3 [(sprinkler, [.on, .off, .on])] [garden] [hose]).toOption.map
      (fun registry => decide
        (let away := registry.afterAll puttingAway
        let out := away.afterAll takingOut
        (between registry away).devices.map (·.enabled) = [false] ∧
          (between registry out).devices.isEmpty = true ∧
          (between registry out).locations = [terrace])) = some true := by decide +kernel
  obtain ⟨registry, restored, parts⟩ := exists_of_toOption_map parts
  obtain ⟨changed, unchanged, new⟩ := of_decide_eq_true parts
  have reached : registry.Reachable := ⟨registry, [], .restored restored, rfl⟩
  have ⟨exact, _, composed⟩ := between_is_exact reached puttingAway takingOut
  exact ⟨registry, restored, reached, exact, changed, unchanged, new, composed⟩

/-- A device is disabled and enabled again: nothing is between the registry before and the one
after, but they are not the same one, for the version has risen by two. -/
theorem between_isEmpty_undone :
    ∃ registry, Registry.empty.afterAll [.upsert { id := hose.id }] = registry ∧
      registry.Reachable ∧
      (between registry
        (registry.afterAll [.setEnabled hose.id false, .setEnabled hose.id true])).isEmpty = true ∧
      (registry ==
        registry.afterAll [.setEnabled hose.id false, .setEnabled hose.id true]) = false := by
  refine ⟨_, rfl, ⟨.empty, _, .new, rfl⟩, ?_, ?_⟩
  · decide +kernel
  · decide +kernel

end Undone

end Registry

end HomeVoice
