import HomeVoice.Proofs.Grammar.Rules

/-!
# No two rules have one name

Device types are given stems one after the other, each by a search through the numbered stems. Every
search ends, so every list of types has its stems, and there is only one way to give them. Names of
rules differ since stems do, and what stands behind a stem is at the end of no other name.
-/

namespace HomeVoice.Grammar

/-- Stems are given to device types one after the other. Each type has the one with which the search
for it ends, and from then on that stem is in use. -/
inductive Assigned : (used : List (List Char)) → List DeviceType → List (List Char) → Prop where
  | done {used : List (List Char)} : Assigned used [] []
  | next {used others : List (List Char)} {deviceType : DeviceType} {rest : List DeviceType}
      {number : Nat} (search : Search used (baseStem deviceType.text) 1 number)
      (later : Assigned (numbered (baseStem deviceType.text) number :: used) rest others) :
      Assigned used (deviceType :: rest) (numbered (baseStem deviceType.text) number :: others)

theorem assigned_stemsAfter (types : List DeviceType) (used : List (List Char)) :
    Assigned used types (stemsAfter used types) := by
  induction types generalizing used with
  | nil => exact .done
  | cons deviceType rest ih =>
    obtain ⟨number, _, search⟩ := exists_search used (baseStem deviceType.text)
    rw [stemsAfter, search.freshStem_eq]
    exact .next search (ih _)

theorem Assigned.eq_stemsAfter {used found : List (List Char)} {types : List DeviceType}
    (assigned : Assigned used types found) : found = stemsAfter used types := by
  induction assigned with
  | done => rfl
  | next search _ ih => rw [stemsAfter, search.freshStem_eq, ih]

/-- Every search ends, and every list of device types is given stems, one for each type, in one way
only. The stems differ and can start names of rules, and these names differ from each other and from
those without a stem. -/
theorem ruleNames_apart (types : List DeviceType) :
    (∀ used base, ∃ last ≤ used.length + 1, Search used base 1 last) ∧
      (∀ found, Assigned [] types found ↔ found = stems types) ∧
      (stems types).length = types.length ∧ (stems types).Nodup ∧
      (∀ stem ∈ stems types, IsTidy stem) ∧
      (plainNames ++ (stems types).flatMap fun stem =>
        [actionRuleName stem, locationRuleName stem, commandRuleName stem]).Nodup := by
  have apart := nodup_stems types
  refine ⟨exists_search, ?_, length_stems types, apart, fun _ member => isTidy_of_mem_stems member,
    nodup_ruleNames apart⟩
  intro found
  constructor
  · exact Assigned.eq_stemsAfter
  · rintro rfl
    exact assigned_stemsAfter types []

/-- Types that ask for one stem, for a stem that another one gets by its number, and for none. -/
def lookalikes : List DeviceType :=
  ["tv room", "tv-room-2", "tv-room", "ñ", "é"].filterMap Name.ofText?

theorem ruleNames_apart_lookalikes :
    lookalikes.length = 5 ∧
      stems lookalikes = ["tv-room".toList, "tv-room-2".toList, "tv-room-3".toList, "type".toList,
        "type-2".toList] ∧
      Assigned [] lookalikes (stems lookalikes) ∧ IsTidy "tv-room-3".toList := by
  obtain ⟨_, assigned, _, _, tidy, _⟩ := ruleNames_apart lookalikes
  have given : stems lookalikes = ["tv-room".toList, "tv-room-2".toList, "tv-room-3".toList,
      "type".toList, "type-2".toList] := by decide +kernel
  refine ⟨by decide +kernel, given, (assigned _).mpr rfl, tidy _ ?_⟩
  rw [given]
  simp

end HomeVoice.Grammar
