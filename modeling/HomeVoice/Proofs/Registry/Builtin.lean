import HomeVoice.Proofs.SortedMap
import HomeVoice.Registry

/-!
# The built-in device types

Each line of the list of vocabularies names a device type of its own, so the built-in types are the
lines of that list, and every one of them has actions, none of them twice.
-/

namespace HomeVoice

/-- The names in the list of built-in vocabularies are in their normal form, and no two lines have
the same one. -/
theorem builtinVocabularies_names : ∀ line ∈ builtinVocabularies,
    (∃ deviceType : DeviceType, Name.ofText? line.1 = some deviceType ∧ deviceType.text = line.1) ∧
      builtinVocabulary? line.1 = some line.2 ∧ line.2 ≠ [] ∧ line.2.Nodup := by
  have read : ∀ line ∈ builtinVocabularies,
      (Name.ofText? line.1 : Option DeviceType).map (·.text) = some line.1 ∧
        builtinVocabulary? line.1 = some line.2 ∧ line.2 ≠ [] ∧ line.2.Nodup := by
    decide +kernel
  intro line member
  obtain ⟨named, others⟩ := read line member
  exact ⟨Option.map_eq_some_iff.mp named, others⟩

theorem mem_builtinVocabularies {name : String} {actions : List Action}
    (found : builtinVocabulary? name = some actions) : (name, actions) ∈ builtinVocabularies := by
  obtain ⟨before, behind, split, _⟩ := List.lookup_eq_some_iff.mp found
  rw [split]
  exact List.mem_append_right _ List.mem_cons_self

theorem isSome_builtinVocabulary?_iff {name : String} :
    (builtinVocabulary? name).isSome = true ↔ name ∈ builtinVocabularies.map Prod.fst := by
  rw [builtinVocabulary?, List.lookup_isSome_iff, List.mem_map]
  simp only [beq_iff_eq, @eq_comm String name]

/-- The built-in types are those of the list of vocabularies. -/
theorem builtinTypes_get? (deviceType : DeviceType) :
    builtinTypes.get? deviceType = builtinVocabulary? deviceType.text := by
  have listed {entry : DeviceType × List Action}
      (member : entry ∈ builtinVocabularies.filterMap fun line =>
        (Name.ofText? line.1).map fun name => (name, line.2)) :
      builtinVocabulary? entry.1.text = some entry.2 := by
    obtain ⟨line, known, made⟩ := List.mem_filterMap.mp member
    obtain ⟨⟨name, read, text⟩, found, _⟩ := builtinVocabularies_names line known
    rw [read] at made
    cases made
    exact text ▸ found
  apply Option.ext
  intro actions
  constructor
  · intro found
    exact listed (SortedMap.mem_of_get?_ofList found)
  · intro found
    have known := mem_builtinVocabularies found
    obtain ⟨⟨name, read, text⟩, _⟩ := builtinVocabularies_names _ known
    have same : name = deviceType := Name.eq_of_text text
    refine SortedMap.get?_ofList_of_mem ?_ ?_
    · exact List.mem_filterMap.mpr ⟨_, known, by rw [read, same]; rfl⟩
    · intro other member
      exact Option.some.inj ((listed member).symm.trans found)

theorem builtinTypes_sound {deviceType : DeviceType} {actions : List Action}
    (found : builtinTypes.get? deviceType = some actions) : actions ≠ [] ∧ actions.Nodup := by
  rw [builtinTypes_get?] at found
  exact (builtinVocabularies_names _ (mem_builtinVocabularies found)).2.2

end HomeVoice
