import Mathlib.Data.List.Nodup
import Mathlib.Data.List.Perm.Subperm
import Mathlib.Data.Nat.Find
import HomeVoice.Grammar.Stem
import HomeVoice.Proofs.Text.Words

/-!
# Every device type has a stem for itself

Numbers make as many stems as are wanted out of one, so one of them is free whatever stems are in
use, and a search through them ends. A stem has only characters that the names of rules may have, and
a letter or a digit at either end.
-/

namespace HomeVoice.Grammar

/-- Different numbers make different stems. -/
theorem numbered_injective (base : List Char) : Function.Injective (numbered base) := by
  intro first second same
  have behind (number : Nat) (more : number ≠ 1) :
      numbered base number = base ++ '-' :: Nat.toDigits 10 number := if_neg more
  by_cases one : first = 1 <;> by_cases other : second = 1
  · rw [one, other]
  · rw [one, numbered, if_pos rfl, behind second other] at same
    simp at same
  · rw [other, behind first one, numbered, if_pos rfl] at same
    simp at same
  · rw [behind first one, behind second other] at same
    have digits : Nat.toDigits 10 first = Nat.toDigits 10 second := by
      simpa using List.append_cancel_left same
    have read := congrArg (fun digits => Nat.ofDigitChars 10 digits 0) digits
    simpa using read

/-- One more numbered stem than there are stems in use is not in use. -/
theorem exists_free (used : List (List Char)) (base : List Char) :
    ∃ stem ∈ (List.range (used.length + 1)).map (fun n => numbered base (n + 1)), stem ∉ used := by
  by_contra all
  have within : (List.range (used.length + 1)).map (fun n => numbered base (n + 1)) ⊆ used := by
    intro stem member
    by_contra free
    exact all ⟨stem, member, free⟩
  have apart : ((List.range (used.length + 1)).map (fun n => numbered base (n + 1))).Nodup := by
    refine List.Nodup.map ?_ List.nodup_range
    intro first second same
    exact Nat.succ.inj (numbered_injective base same)
  have bound := (List.subperm_of_subset apart within).length_le
  rw [List.length_map, List.length_range] at bound
  exact Nat.not_succ_le_self _ bound

/-- The search for a free stem: numbers are tried one after the other, and the first one whose stem
is not in use ends it. A search that never ends leads to no number. -/
inductive Search (used : List (List Char)) (base : List Char) : (number last : Nat) → Prop where
  | stop {number : Nat} (free : numbered base number ∉ used) : Search used base number number
  | next {number last : Nat} (taken : numbered base number ∈ used)
      (later : Search used base (number + 1) last) : Search used base number last

section Search

variable {used : List (List Char)} {base : List Char} {number last : Nat}

/-- The search ends at a free stem, and what it passed is in use. -/
theorem Search.spec (search : Search used base number last) :
    number ≤ last ∧ numbered base last ∉ used ∧
      ∀ passed, number ≤ passed → passed < last → numbered base passed ∈ used := by
  induction search with
  | stop free => exact ⟨Nat.le_refl _, free, fun passed _ _ => by omega⟩
  | @next number last taken _ ih =>
    obtain ⟨before, free, passedBy⟩ := ih
    refine ⟨by omega, free, ?_⟩
    intro passed first upTo
    by_cases here : passed = number
    · rw [here]
      exact taken
    · exact passedBy passed (by omega) upTo

theorem search_of_passed (before : number ≤ last) (free : numbered base last ∉ used)
    (passedBy : ∀ passed, number ≤ passed → passed < last → numbered base passed ∈ used) :
    Search used base number last := by
  -- By induction on the steps that are left; with none the search stops where it starts.
  obtain ⟨steps, rfl⟩ := Nat.exists_eq_add_of_le before
  clear before
  induction steps generalizing number with
  | zero => exact .stop free
  | succ steps ih =>
    have further : number + (steps + 1) = number + 1 + steps := by omega
    refine .next (passedBy number (Nat.le_refl _) (by omega)) ?_
    rw [further] at free passedBy ⊢
    exact ih free fun passed _ upTo => passedBy passed (by omega) upTo

theorem Search.unique {other : Nat} (first : Search used base number last)
    (second : Search used base number other) : last = other := by
  obtain ⟨before, free, passed⟩ := first.spec
  obtain ⟨before', free', passed'⟩ := second.spec
  rcases Nat.lt_trichotomy last other with earlier | same | later
  · exact absurd (passed' last before earlier) free
  · exact same
  · exact absurd (passed other before' later) free'

/-- The search ends, at the latest with one more number than there are stems in use. -/
theorem exists_search (used : List (List Char)) (base : List Char) :
    ∃ last ≤ used.length + 1, Search used base 1 last := by
  obtain ⟨_, listed, free⟩ := exists_free used base
  obtain ⟨n, within, rfl⟩ := List.mem_map.mp listed
  have within := List.mem_range.mp within
  -- Some number is free, and the search stops at the least one.
  have reached : ∃ n, numbered base (n + 1) ∉ used := ⟨n, free⟩
  have least : Nat.find reached ≤ n := Nat.find_min' reached free
  refine ⟨Nat.find reached + 1, by omega, search_of_passed (by omega) (Nat.find_spec reached) ?_⟩
  intro passed first upTo
  obtain ⟨before, rfl⟩ := Nat.exists_eq_add_of_le' first
  exact not_not.mp (Nat.find_min reached (by omega))

/-- The fresh stem is the one with which the search ends. -/
theorem Search.freshStem_eq (search : Search used base 1 last) :
    freshStem used base = numbered base last := by
  obtain ⟨stop, bound, found⟩ := exists_search used base
  obtain rfl := search.unique found
  obtain ⟨before, free, passedBy⟩ := search.spec
  obtain ⟨n, rfl⟩ := Nat.exists_eq_add_of_le' before
  have first : (List.range (used.length + 1)).find?
      ((fun stem => !used.contains stem) ∘ fun n => numbered base (n + 1)) = some n := by
    rw [List.find?_range_eq_some]
    refine ⟨by simpa using free, List.mem_range.mpr (by omega), ?_⟩
    intro passed earlier
    simpa using passedBy (passed + 1) (by omega) (by omega)
  unfold freshStem
  dsimp only
  rw [List.find?_map, first]
  rfl

end Search

/-- A fresh stem is a numbered one, and it is not in use. -/
theorem freshStem_spec (used : List (List Char)) (base : List Char) :
    (∃ number, freshStem used base = numbered base number) ∧ freshStem used base ∉ used := by
  obtain ⟨last, _, search⟩ := exists_search used base
  rw [search.freshStem_eq]
  exact ⟨⟨last, rfl⟩, search.spec.2.1⟩

/-- The characters that a stem is made of. -/
def IsStem (stem : List Char) : Prop :=
  stem ≠ [] ∧ ∀ c ∈ stem, isStemChar c = true ∨ c = '-'

/-- A stem with a letter or a digit at either end. -/
structure IsTidy (stem : List Char) : Prop where
  isStem : IsStem stem
  first : ∀ c ∈ stem.head?, isStemChar c = true
  last : ∀ c ∈ stem.getLast?, isStemChar c = true

theorem baseStem_eq_joinPieces (name : String) :
    ∃ parts, parts ≠ [] ∧ (∀ piece ∈ parts, Text.IsPiece (fun c => !isStemChar c) piece) ∧
      baseStem name = Text.joinPieces '-' parts := by
  unfold baseStem
  split
  · have letters : "type".toList.all isStemChar = true := by decide
    have whole : Text.IsPiece (fun c => !isStemChar c) "type".toList :=
      ⟨by decide, fun c member => by simpa using List.all_eq_true.mp letters c member⟩
    exact ⟨["type".toList], by simp, by simpa using whole, rfl⟩
  next given => exact ⟨_, given, fun _ member => Text.isPiece_of_mem_pieces member, rfl⟩

theorem isTidy_baseStem (name : String) : IsTidy (baseStem name) := by
  obtain ⟨parts, given, good, same⟩ := baseStem_eq_joinPieces name
  rw [same]
  refine ⟨⟨Text.joinPieces_ne_nil good given, ?_⟩, ?_, ?_⟩
  · intro c member
    rcases Text.mem_of_mem_joinPieces member with hyphen | ⟨piece, known, inside⟩
    · exact .inr hyphen
    · exact .inl (by simpa using (good piece known).2 c inside)
  · intro c first
    simpa using Text.isSeparator_head?_joinPieces good first
  · intro c last
    simpa using Text.isSeparator_getLast?_joinPieces good last

theorem isTidy_numbered {base : List Char} (good : IsTidy base) (number : Nat) :
    IsTidy (numbered base number) := by
  have ⟨⟨nonempty, plain⟩, first, _⟩ := good
  have digits {c : Char} (member : c ∈ Nat.toDigits 10 number) : isStemChar c = true := by
    have digit := Nat.isDigit_of_mem_toDigits (by decide) (Nat.le_refl 10) member
    simp [isStemChar, digit]
  unfold numbered
  split
  · exact good
  · refine ⟨⟨by simp [nonempty], ?_⟩, ?_, ?_⟩
    · intro c member
      rcases List.mem_append.mp member with front | behind
      · exact plain c front
      · exact (List.mem_cons.mp behind).elim .inr fun digit => .inl (digits digit)
    · intro c start
      rw [List.head?_append_of_ne_nil _ nonempty] at start
      exact first c start
    · intro c ending
      -- Behind the hyphen stands a digit at least.
      rw [List.append_cons, List.getLast?_append_of_ne_nil _ Nat.toDigits_ne_nil] at ending
      exact digits (List.mem_of_getLast? ending)

theorem isTidy_freshStem (used : List (List Char)) (name : String) :
    IsTidy (freshStem used (baseStem name)) := by
  obtain ⟨⟨number, same⟩, _⟩ := freshStem_spec used (baseStem name)
  rw [same]
  exact isTidy_numbered (isTidy_baseStem name) number

private theorem stemsAfter_spec (types : List DeviceType) (used : List (List Char)) :
    (stemsAfter used types).Nodup ∧ ∀ stem ∈ stemsAfter used types, stem ∉ used ∧ IsTidy stem := by
  induction types generalizing used with
  | nil => exact ⟨.nil, nofun⟩
  | cons deviceType rest ih =>
    have ⟨_, fresh⟩ := freshStem_spec used (baseStem deviceType.text)
    obtain ⟨apart, others⟩ := ih (freshStem used (baseStem deviceType.text) :: used)
    rw [stemsAfter]
    constructor
    · refine List.nodup_cons.mpr ⟨?_, apart⟩
      intro member
      exact (others _ member).1 List.mem_cons_self
    · refine List.forall_mem_cons.mpr ⟨⟨fresh, isTidy_freshStem used _⟩, ?_⟩
      intro stem member
      have ⟨unused, good⟩ := others stem member
      exact ⟨fun known => unused (List.mem_cons_of_mem _ known), good⟩

theorem length_stems (types : List DeviceType) : (stems types).length = types.length := by
  have after (used : List (List Char)) : (stemsAfter used types).length = types.length := by
    induction types generalizing used with
    | nil => rfl
    | cons deviceType rest ih => rw [stemsAfter, List.length_cons, ih, List.length_cons]
  exact after []

theorem nodup_stems (types : List DeviceType) : (stems types).Nodup := (stemsAfter_spec types []).1

theorem isTidy_of_mem_stems {types : List DeviceType} {stem : List Char}
    (member : stem ∈ stems types) : IsTidy stem := ((stemsAfter_spec types []).2 stem member).2

end HomeVoice.Grammar
