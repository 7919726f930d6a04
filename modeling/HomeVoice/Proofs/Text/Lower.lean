import HomeVoice.Text.Blank
import HomeVoice.Text.Case

/-!
# Lower case is final

What lower case makes of a character is in lower case, so lower case of lower case changes nothing.
For the table of capital letters this means that no form is itself a letter of the table: taken as
the bits of two numbers, letters and forms have no bit in common. No form is a blank.
-/

namespace HomeVoice.Text

/-- So many bits, the lowest one and then every one at the distance of a step. -/
def spacedBits (step : Nat) : Nat → Nat
  | 0 => 0
  | count + 1 => spacedBits step count <<< step ||| 1

theorem testBit_spacedBits {step count i : Nat} (within : i < count) :
    (spacedBits step count).testBit (i * step) = true := by
  induction count generalizing i with
  | zero => exact absurd within (Nat.not_lt_zero i)
  | succ count ih =>
    rw [spacedBits, Nat.testBit_or, Bool.or_eq_true]
    cases i with
    | zero => exact .inr (by simp)
    | succ i =>
      left
      rw [Nat.succ_mul, Nat.testBit_shiftLeft, Nat.add_sub_cancel]
      simp [ih (Nat.lt_of_succ_lt_succ within)]

namespace CaseRun

/-- The letters of a run as bits when the first of them is at the start, its forms when the form of
the first is. -/
def bits (run : CaseRun) (start : Nat) : Nat :=
  spacedBits run.2.2.1 ((run.2.1 - run.1) / run.2.2.1 + 1) <<< start

/-- The last of the forms of a run. -/
def lastForm (run : CaseRun) : Nat := run.2.2.2 + (run.2.1 - run.1)

/-- The forms of a run are characters from the small letters on, but no blanks and not the one
capital that stands for two. -/
def isPlain (run : CaseRun) : Bool :=
  Nat.ble 'a'.toNat run.2.2.2 &&
    (Nat.blt run.lastForm 0xD800 || Nat.blt 0xDFFF run.2.2.2 && Nat.blt run.lastForm 0x110000) &&
    (Nat.blt run.lastForm 'İ'.toNat || Nat.blt 'İ'.toNat run.2.2.2) &&
    blankTable.all fun range => Nat.blt run.lastForm range.1 || Nat.blt range.2 run.2.2.2

theorem lower?_eq_some_iff {run : CaseRun} {code form : Nat} :
    run.lower? code = some form ↔
      run.1 ≤ code ∧ code ≤ run.2.1 ∧ (code - run.1) % run.2.2.1 = 0 ∧
        form = run.2.2.2 + (code - run.1) := by
  obtain ⟨first, last, step, target⟩ := run
  simp only [lower?, Option.ite_none_right_eq_some, Option.some.injEq, and_assoc]
  rw [eq_comm (a := form)]

theorem testBit_bits {run : CaseRun} {code form : Nat} (lowered : run.lower? code = some form)
    (start : Nat) : (run.bits start).testBit (start + (code - run.1)) = true := by
  obtain ⟨_, _, spaced, _⟩ := lower?_eq_some_iff.mp lowered
  have steps : (code - run.1) / run.2.2.1 * run.2.2.1 = code - run.1 :=
    Nat.div_mul_cancel (Nat.dvd_of_mod_eq_zero spaced)
  have within : (code - run.1) / run.2.2.1 < (run.2.1 - run.1) / run.2.2.1 + 1 :=
    Nat.lt_succ_of_le (Nat.div_le_div_right (by omega))
  rw [bits, Nat.testBit_shiftLeft, Nat.add_sub_cancel_left, ← steps, testBit_spacedBits within]
  simp

/-- What the runs of the table have in bits. -/
def together (bits : CaseRun → Nat) (runs : List CaseRun) : Nat :=
  runs.foldr (fun run rest => bits run ||| rest) 0

theorem testBit_together (bits : CaseRun → Nat) {runs : List CaseRun} {run : CaseRun}
    (known : run ∈ runs) {code : Nat} (set : (bits run).testBit code = true) :
    (together bits runs).testBit code = true := by
  induction runs with
  | nil => cases known
  | cons head rest ih =>
    rw [together, List.foldr_cons, Nat.testBit_or, Bool.or_eq_true]
    rcases List.mem_cons.mp known with rfl | later
    · exact .inl set
    · exact .inr (ih later)

theorem forms_apart_lowerRuns :
    together (fun run => run.bits run.2.2.2) lowerRuns &&&
      together (fun run => run.bits run.1) lowerRuns = 0 := by
  decide +kernel

/-- A form of the table is no letter of it. -/
theorem lower?_of_form {forms letters : CaseRun} (known : forms ∈ lowerRuns)
    (listed : letters ∈ lowerRuns) {code form : Nat} (lowered : forms.lower? code = some form) :
    letters.lower? form = none := by
  cases again : letters.lower? form with
  | none => rfl
  | some other =>
    have asForm := testBit_together (fun run => run.bits run.2.2.2) known
      (testBit_bits lowered forms.2.2.2)
    have asLetter := testBit_together (fun run => run.bits run.1) listed
      (testBit_bits again letters.1)
    obtain ⟨_, _, _, rfl⟩ := lower?_eq_some_iff.mp lowered
    obtain ⟨above, _⟩ := lower?_eq_some_iff.mp again
    rw [Nat.add_sub_cancel' above] at asLetter
    have both := congrArg (fun bits => bits.testBit (forms.2.2.2 + (code - forms.1)))
      forms_apart_lowerRuns
    simp [Nat.testBit_and, asForm, asLetter] at both

end CaseRun

theorem isPlain_lowerRuns : (lowerRuns.all CaseRun.isPlain) = true := by decide +kernel

theorem toNat_ofNat {code : Nat} (valid : code.isValidChar) : (Char.ofNat code).toNat = code := by
  unfold Char.ofNat
  rw [dif_pos valid]
  rfl

/-- Lower case leaves the character as it is wherever it stands. -/
def IsLower (c : Char) : Prop := c ≠ 'Σ' ∧ lowerChar c = [c]

theorem form_of_isPlain {run : CaseRun} (plain : run.isPlain = true) {code form : Nat}
    (lowered : run.lower? code = some form) :
    (Char.ofNat form).toNat = form ∧ 'a'.toNat ≤ form ∧ Char.ofNat form ≠ 'İ' ∧
      isBlank (Char.ofNat form) = false := by
  obtain ⟨_, within, _, rfl⟩ := CaseRun.lower?_eq_some_iff.mp lowered
  simp only [CaseRun.isPlain, CaseRun.lastForm, Bool.or_eq_true, Bool.and_eq_true, Nat.blt_eq,
    Nat.ble_eq, List.all_eq_true] at plain
  obtain ⟨⟨⟨late, valid⟩, undotted⟩, unblank⟩ := plain
  have form : (Char.ofNat (run.2.2.2 + (code - run.1))).toNat = run.2.2.2 + (code - run.1) := by
    apply toNat_ofNat
    rcases valid with low | ⟨high, bounded⟩
    · exact .inl (by omega)
    · exact .inr ⟨by omega, by omega⟩
  refine ⟨form, Nat.le_add_right_of_le late, ?_, ?_⟩
  · intro same
    rw [same] at form
    omega
  · rw [Bool.eq_false_iff]
    intro blank
    obtain ⟨range, known, above, below⟩ := inTable_iff.mp blank
    rw [form] at above below
    have apart := unblank range known
    omega

/-- A capital letter has a form in the table, is the capital with two forms or has none. -/
theorem mem_lowerChar {c d : Char} (member : d ∈ lowerChar c) :
    (c = 'İ' ∧ (d = 'i' ∨ d = '\u0307')) ∨
      (∃ run ∈ lowerRuns, ∃ form, run.lower? c.toNat = some form ∧ d = Char.ofNat form) ∨
      d = c ∧ lowerChar c = [c] := by
  unfold lowerChar at member ⊢
  split at member
  next dotted => exact .inl ⟨dotted, by simpa using member⟩
  next undotted =>
    rw [if_neg undotted]
    cases found : lowerRuns.findSome? (·.lower? c.toNat) with
    | none =>
      rw [found] at member
      exact .inr (.inr ⟨by simpa using member, rfl⟩)
    | some form =>
      rw [found] at member
      obtain ⟨run, known, lowered⟩ := List.exists_of_findSome?_eq_some found
      exact .inr (.inl ⟨run, known, form, lowered, by simpa using member⟩)

/-- The two forms of the capital I with a dot and the two of the sigma are in lower case. -/
theorem isLower_of_special {c : Char} (special : c ∈ ['i', '\u0307', 'σ', 'ς']) : IsLower c := by
  have checked : (['i', '\u0307', 'σ', 'ς'].all fun c => c ≠ 'Σ' ∧ lowerChar c = [c]) = true := by
    decide +kernel
  have lower : c ≠ 'Σ' ∧ lowerChar c = [c] := by
    simpa using List.all_eq_true.mp checked c special
  exact lower

/-- What a character becomes is in lower case. -/
theorem isLower_of_mem_lowerChar {c d : Char} (simple : c ≠ 'Σ') (member : d ∈ lowerChar c) :
    IsLower d := by
  rcases mem_lowerChar member with ⟨_, rfl | rfl⟩ | ⟨run, known, form, lowered, rfl⟩ | ⟨rfl, same⟩
  · exact isLower_of_special (by simp)
  · exact isLower_of_special (by simp)
  · have plain := List.all_eq_true.mp isPlain_lowerRuns run known
    obtain ⟨code, _, undotted, _⟩ := form_of_isPlain plain lowered
    have nowhere : lowerRuns.findSome? (·.lower? form) = none := by
      rw [List.findSome?_eq_none_iff]
      intro letters listed
      exact CaseRun.lower?_of_form known listed lowered
    constructor
    · intro sigma
      rw [← code, sigma] at nowhere
      revert nowhere
      decide +kernel
    · unfold lowerChar
      rw [if_neg undotted, code, nowhere]
  · exact ⟨simple, same⟩

theorem isBlank_of_mem_lowerChar {c d : Char} (unblank : isBlank c = false)
    (member : d ∈ lowerChar c) : isBlank d = false := by
  rcases mem_lowerChar member with ⟨_, rfl | rfl⟩ | ⟨run, known, form, lowered, rfl⟩ | ⟨rfl, _⟩
  · decide
  · decide
  · have plain := List.all_eq_true.mp isPlain_lowerRuns run known
    exact (form_of_isPlain plain lowered).2.2.2
  · exact unblank

theorem lowerChar_ne_nil (c : Char) : lowerChar c ≠ [] := by
  unfold lowerChar
  split
  · simp
  · split <;> simp

theorem isLower_of_mem_lowerFrom {before text : List Char} {c : Char}
    (member : c ∈ lowerFrom before text) : IsLower c := by
  induction text generalizing before with
  | nil => cases member
  | cons head rest ih =>
    rcases List.mem_append.mp member with here | later
    · split at here
      · split at here
        · rw [List.mem_singleton.mp here]
          exact isLower_of_special (by simp)
        · rw [List.mem_singleton.mp here]
          exact isLower_of_special (by simp)
      next simple => exact isLower_of_mem_lowerChar simple here
    · exact ih later

/-- A character in front of the small letters is in a text in lower case only if it was there. -/
theorem mem_of_mem_lowerFrom {before text : List Char} {c : Char} (early : c.toNat < 'a'.toNat)
    (member : c ∈ lowerFrom before text) : c ∈ text := by
  induction text generalizing before with
  | nil => cases member
  | cons head rest ih =>
    rcases List.mem_append.mp member with here | later
    · split at here
      · split at here
        · rw [List.mem_singleton.mp here] at early
          exact absurd early (by decide)
        · rw [List.mem_singleton.mp here] at early
          exact absurd early (by decide)
      next simple =>
        rcases mem_lowerChar here with ⟨_, rfl | rfl⟩ | ⟨run, known, form, lowered, rfl⟩ | ⟨rfl, _⟩
        · exact absurd early (by decide)
        · exact absurd early (by decide)
        · have plain := List.all_eq_true.mp isPlain_lowerRuns run known
          obtain ⟨code, late, _⟩ := form_of_isPlain plain lowered
          omega
        · exact List.mem_cons_self
    · exact List.mem_cons_of_mem _ (ih later)

theorem lowerFrom_of_isLower {before text : List Char} (all : ∀ c ∈ text, IsLower c) :
    lowerFrom before text = text := by
  induction text generalizing before with
  | nil => rfl
  | cons head rest ih =>
    have ⟨simple, same⟩ := all head List.mem_cons_self
    rw [lowerFrom, if_neg simple, same, ih fun c member => all c (List.mem_cons_of_mem _ member)]
    rfl

/-- Lower case of lower case changes nothing. -/
theorem lower_lower (text : List Char) : lower (lower text) = lower text :=
  lowerFrom_of_isLower fun _ member => isLower_of_mem_lowerFrom member

end HomeVoice.Text
