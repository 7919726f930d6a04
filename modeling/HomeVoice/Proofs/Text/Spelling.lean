import HomeVoice.Name
import HomeVoice.Proofs.Text.Lower
import Mathlib.Data.List.Forall2

/-!
# Texts in other letters

Two texts that are related character for character are cut alike as long as related characters are
both separators or neither is. Lower case takes them to the same text if related characters have
the same form and are the same to a sigma beside them; this is so for letters that differ in case
only.
-/

namespace HomeVoice.Text

section Related

variable {same : Char → Char → Prop} {text other : List Char} {p : Char → Bool}

theorem dropWhile_related (agree : ∀ c d, same c d → p c = p d)
    (related : List.Forall₂ same text other) :
    List.Forall₂ same (text.dropWhile p) (other.dropWhile p) := by
  induction related with
  | nil => exact .nil
  | @cons c d _ _ head rest ih =>
    rw [List.dropWhile_cons, List.dropWhile_cons, ← agree _ _ head]
    cases p c with
    | true => exact ih
    | false => exact .cons head rest

theorem takeWhile_related (agree : ∀ c d, same c d → p c = p d)
    (related : List.Forall₂ same text other) :
    List.Forall₂ same (text.takeWhile p) (other.takeWhile p) := by
  induction related with
  | nil => exact .nil
  | @cons c d _ _ head rest ih =>
    rw [List.takeWhile_cons, List.takeWhile_cons, ← agree _ _ head]
    cases p c with
    | true => exact .cons head ih
    | false => exact .nil

theorem any_related (agree : ∀ c d, same c d → p c = p d)
    (related : List.Forall₂ same text other) : text.any p = other.any p := by
  induction related with
  | nil => rfl
  | cons head _ ih => rw [List.any_cons, List.any_cons, agree _ _ head, ih]

theorem eq_nil_iff_of_related {α : Type} {R : α → α → Prop} {first second : List α}
    (related : List.Forall₂ R first second) : first = [] ↔ second = [] := by
  cases related <;> simp

theorem pieces_related (agree : ∀ c d, same c d → p c = p d)
    (related : List.Forall₂ same text other) :
    List.Forall₂ (List.Forall₂ same) (pieces p text) (pieces p other) := by
  have complete {front front' : List Char} {rest rest' : List (List Char)}
      (fronts : List.Forall₂ same front front')
      (rests : List.Forall₂ (List.Forall₂ same) rest rest') :
      List.Forall₂ (List.Forall₂ same) (if front = [] then rest else front :: rest)
        (if front' = [] then rest' else front' :: rest') := by
    cases fronts with
    | nil => simpa using rests
    | cons head tail => simpa using ⟨⟨head, tail⟩, rests⟩
  have cut : List.Forall₂ same (text.foldr (cutBefore p) ([], [])).1
        (other.foldr (cutBefore p) ([], [])).1 ∧
      List.Forall₂ (List.Forall₂ same) (text.foldr (cutBefore p) ([], [])).2
        (other.foldr (cutBefore p) ([], [])).2 := by
    induction related with
    | nil => exact ⟨.nil, .nil⟩
    | @cons c d _ _ head _ ih =>
      obtain ⟨fronts, rests⟩ := ih
      rw [List.foldr_cons, List.foldr_cons]
      unfold cutBefore
      rw [← agree _ _ head]
      cases p c with
      | true => exact ⟨.nil, complete fronts rests⟩
      | false => exact ⟨.cons head fronts, rests⟩
  exact complete cut.1 cut.2

theorem joinPieces_related {separator : Char} (kept : same separator separator)
    {first second : List (List Char)} (related : List.Forall₂ (List.Forall₂ same) first second) :
    List.Forall₂ same (joinPieces separator first) (joinPieces separator second) := by
  induction related with
  | nil => exact .nil
  | cons head rest ih =>
    cases rest with
    | nil => exact head
    | cons => exact List.rel_append head (.cons kept ih)

theorem trim_related (agree : ∀ c d, same c d → isBlank c = isBlank d)
    (related : List.Forall₂ same text other) : List.Forall₂ same (trim text) (trim other) := by
  unfold trim
  have front : List.Forall₂ same (trimStart text) (trimStart other) :=
    dropWhile_related agree related
  exact List.rel_reverse (dropWhile_related agree (List.rel_reverse front))

end Related

/-- Lower case takes the two characters for the same: `view` does not tell their forms apart, and a
sigma does not tell them apart as neighbours. -/
structure LowerAlike (view : Char → Char) (c d : Char) : Prop where
  sigma : c = 'Σ' ↔ d = 'Σ'
  cased : inTable casedTable c = inTable casedTable d
  ignored : inTable caseIgnorableTable c = inTable caseIgnorableTable d
  forms : (lowerChar c).map view = (lowerChar d).map view

section Lower

variable {view : Char → Char} {before passed text other : List Char}

theorem reachesCased_of_alike (alike : List.Forall₂ (LowerAlike view) text other) :
    reachesCased text = reachesCased other := by
  have stopped := dropWhile_related (fun _ _ head => head.ignored) alike
  unfold reachesCased
  generalize text.dropWhile (inTable caseIgnorableTable) = rest at stopped ⊢
  generalize other.dropWhile (inTable caseIgnorableTable) = rest' at stopped ⊢
  cases stopped with
  | nil => rfl
  | cons head _ => exact head.cased

/-- Lower case keeps texts alike, character by character. -/
theorem lowerFrom_of_alike (behind : List.Forall₂ (LowerAlike view) before passed)
    (ahead : List.Forall₂ (LowerAlike view) text other) :
    (lowerFrom before text).map view = (lowerFrom passed other).map view := by
  induction ahead generalizing before passed with
  | nil => rfl
  | @cons c d after after' head rest ih =>
    have here : endsWord before after = endsWord passed after' := by
      unfold endsWord
      rw [reachesCased_of_alike behind, reachesCased_of_alike rest]
    rw [lowerFrom, lowerFrom, List.map_append, List.map_append, ih (.cons head behind), here]
    congr 1
    by_cases sigma : c = 'Σ'
    · rw [if_pos sigma, if_pos (head.sigma.mp sigma)]
    · rw [if_neg sigma, if_neg fun other => sigma (head.sigma.mpr other), head.forms]

end Lower

/-- The same character but for the case of a letter from `A` to `Z`. -/
def SameLetter (c d : Char) : Prop := c.toLower = d.toLower

instance : DecidableRel SameLetter := fun c d => inferInstanceAs (Decidable (c.toLower = d.toLower))

/-- The letters from `A` to `Z`. -/
def capitals : List Char := (List.range 26).map fun n => Char.ofNat (0x41 + n)

theorem mem_capitals_of_toLower_ne {c : Char} (changed : c.toLower ≠ c) : c ∈ capitals := by
  have within : 'A'.val ≤ c.val ∧ c.val ≤ 'Z'.val := by
    by_contra outside
    exact changed (dif_neg outside)
  obtain ⟨above, below⟩ := within
  have above : 0x41 ≤ c.toNat := above
  have below : c.toNat ≤ 0x5A := below
  refine List.mem_map.mpr ⟨c.toNat - 0x41, List.mem_range.mpr (by omega), ?_⟩
  rw [Nat.add_sub_cancel' above, Char.ofNat_toNat]

namespace SameLetter

variable {c d : Char}

/-- What does not tell a capital from its small letter tells no letters apart that differ in case
only. -/
theorem apply_of_capitals {α : Type} {f : Char → α}
    (kept : ∀ capital ∈ capitals, f capital.toLower = f capital) (same : SameLetter c d) :
    f c = f d := by
  have small (c : Char) : f c.toLower = f c := by
    by_cases changed : c.toLower = c
    · rw [changed]
    · exact kept c (mem_capitals_of_toLower_ne changed)
  rw [← small c, ← small d, same]

theorem apply {α : Type} [DecidableEq α] {f : Char → α}
    (checked : (capitals.all fun capital => f capital.toLower = f capital) = true)
    (same : SameLetter c d) : f c = f d :=
  same.apply_of_capitals fun capital member => by
    simpa using List.all_eq_true.mp checked capital member

/-- A table without letters from `A` to `Z` and from `a` to `z` does not tell their case. -/
theorem inTable_of_unlettered {table : List CodeRange}
    (unlettered : (table.all fun range =>
      (Nat.blt range.2 'A'.toNat || Nat.blt 'Z'.toNat range.1) &&
        (Nat.blt range.2 'a'.toNat || Nat.blt 'z'.toNat range.1)) = true)
    (same : SameLetter c d) : inTable table c = inTable table d := by
  have outside {letter : Char} (small : 'A'.toNat ≤ letter.toNat ∧ letter.toNat ≤ 'Z'.toNat ∨
      'a'.toNat ≤ letter.toNat ∧ letter.toNat ≤ 'z'.toNat) : inTable table letter = false := by
    rw [Bool.eq_false_iff]
    intro listed
    obtain ⟨range, known, above, below⟩ := inTable_iff.mp listed
    have apart := List.all_eq_true.mp unlettered range known
    simp only [Bool.and_eq_true, Bool.or_eq_true, Nat.blt_eq] at apart
    omega
  have letters : (capitals.all fun capital =>
      (Nat.ble 'A'.toNat capital.toNat && Nat.ble capital.toNat 'Z'.toNat) &&
        (Nat.ble 'a'.toNat capital.toLower.toNat && Nat.ble capital.toLower.toNat 'z'.toNat)) =
      true := by
    decide
  refine same.apply_of_capitals fun capital member => ?_
  have within := List.all_eq_true.mp letters capital member
  simp only [Bool.and_eq_true, Nat.ble_eq] at within
  rw [outside (.inl within.1), outside (.inr within.2)]

theorem isBlank (same : SameLetter c d) : isBlank c = isBlank d :=
  same.inTable_of_unlettered (by decide)

/-- The form of a capital is its small letter, which is in lower case. -/
theorem lowerChar (same : SameLetter c d) : lowerChar c = lowerChar d := by
  have forms : (capitals.all fun capital => Text.lowerChar capital = [capital.toLower]) = true := by
    decide
  refine same.apply_of_capitals fun capital member => ?_
  have form : Text.lowerChar capital = [capital.toLower] := by
    simpa using List.all_eq_true.mp forms capital member
  have simple : capital ≠ 'Σ' := by
    rintro rfl
    exact absurd member (by decide)
  rw [form]
  exact (isLower_of_mem_lowerChar simple (form ▸ List.mem_singleton_self _)).2

theorem lowerAlike (same : SameLetter c d) (view : Char → Char) : LowerAlike view c d where
  sigma := by
    rw [← decide_eq_decide]
    exact same.apply (f := fun c => decide (c = 'Σ')) (by decide)
  cased := same.apply (by decide +kernel)
  ignored := same.inTable_of_unlettered (by decide +kernel)
  forms := congrArg (List.map view) same.lowerChar

theorem lower {text other : List Char} (same : List.Forall₂ SameLetter text other) :
    lower text = lower other := by
  have alike := lowerFrom_of_alike .nil (same.imp fun _ _ letter => letter.lowerAlike id)
  simpa [Text.lower] using alike

end SameLetter

end HomeVoice.Text

namespace HomeVoice

/-- The case of letters from `A` to `Z` is not in a name. -/
theorem normalizeName_of_sameLetter {raw other : String}
    (same : List.Forall₂ Text.SameLetter raw.toList other.toList) :
    normalizeName raw = normalizeName other := by
  have words := Text.pieces_related (fun _ _ letter => letter.isBlank) same
  have space : Text.SameLetter ' ' ' ' := rfl
  exact congrArg String.ofList (Text.SameLetter.lower (Text.joinPieces_related space words))

end HomeVoice
