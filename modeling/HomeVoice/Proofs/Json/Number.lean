import Mathlib.Data.List.TakeWhile
import HomeVoice.Json.Reader

/-!
# The texts of numbers are numbers

Every text that documents have for a number takes the reader of numbers from its first character
to a place where a number may end, and natural numbers are read back as they were. Whether a
binary64 number is read back with its last bit is a matter of that number.
-/

namespace HomeVoice

namespace Decimal

theorem isDigit_of_mem_digitsOf {n : Nat} {c : Char} (member : c ∈ digitsOf n) :
    c.isDigit = true :=
  Nat.isDigit_of_mem_toDigits (by decide) (Nat.le_refl 10) member

/-- Only zero begins with a zero. -/
theorem digitsOf_eq_cons {n : Nat} (positive : 0 < n) :
    ∃ c rest, digitsOf n = c :: rest ∧ c ≠ '0' := by
  induction n using Nat.strongRecOn with
  | _ n ih =>
    unfold digitsOf
    rw [Nat.toDigits_eq_if (by decide)]
    by_cases small : n < 10
    · rw [if_pos small]
      refine ⟨_, [], rfl, ?_⟩
      rw [ne_eq, Nat.digitChar_eq_zero]
      omega
    · rw [if_neg small]
      obtain ⟨c, rest, digits, nonzero⟩ := ih (n / 10) (by omega) (by omega)
      unfold digitsOf at digits
      rw [digits]
      exact ⟨c, _, rfl, nonzero⟩

theorem natOfDigits_digitsOf (n : Nat) : natOfDigits (digitsOf n) = n :=
  Nat.ofDigitChars_toDigits (by decide) (Nat.le_refl 10)

end Decimal

namespace Json

theorem ne_of_isDigit {c other : Char} (digit : c.isDigit = true) (noDigit : other.isDigit = false) :
    c ≠ other := by
  rintro rfl
  rw [digit] at noDigit
  cases noDigit

open Decimal (digitsOf isDigit_of_mem_digitsOf digitsOf_eq_cons)

namespace NumberStage

/-- The stage behind several more characters. -/
def run (stage : NumberStage) (text : List Char) : Option NumberStage :=
  text.foldlM next stage

theorem run_cons (stage : NumberStage) (c : Char) (rest : List Char) :
    stage.run (c :: rest) = (stage.next c).bind (·.run rest) := by
  unfold run
  rw [List.foldlM_cons]
  rfl

theorem run_append (stage : NumberStage) (front back : List Char) :
    stage.run (front ++ back) = (stage.run front).bind (·.run back) := by
  unfold run
  rw [List.foldlM_append]
  rfl

/-- A stage that digits do not leave. -/
theorem run_digits {stage : NumberStage} (stays : ∀ c, c.isDigit = true → stage.next c = some stage)
    {digits : List Char} (all : ∀ c ∈ digits, c.isDigit = true) :
    stage.run digits = some stage := by
  induction digits with
  | nil => rfl
  | cons c rest ih =>
    have ⟨first, others⟩ := List.forall_mem_cons.mp all
    rw [run_cons, stays c first]
    exact ih others

theorem next_whole {c : Char} (digit : c.isDigit = true) : NumberStage.whole.next c = some .whole := by
  simp [next, digit]

theorem next_places {c : Char} (digit : c.isDigit = true) :
    NumberStage.places.next c = some .places := by
  simp [next, digit]

theorem next_exponent {c : Char} (digit : c.isDigit = true) :
    NumberStage.exponent.next c = some .exponent := by
  simp [next, digit]

end NumberStage

/-- The digits in front of a point: a zero alone, or digits that do not begin with one. -/
def IsWhole (text : List Char) : Prop :=
  text = ['0'] ∨ (∃ c rest, text = c :: rest ∧ c ≠ '0') ∧ ∀ c ∈ text, c.isDigit = true

theorem IsWhole.run {text : List Char} (whole : IsWhole text) :
    NumberStage.sign.run text = some .zero ∨ NumberStage.sign.run text = some .whole := by
  rcases whole with rfl | ⟨⟨c, rest, rfl, nonzero⟩, digits⟩
  · exact .inl rfl
  · have ⟨first, others⟩ := List.forall_mem_cons.mp digits
    refine .inr ?_
    rw [NumberStage.run_cons]
    simp only [NumberStage.next, if_neg nonzero, first, if_true]
    exact NumberStage.run_digits (fun _ => NumberStage.next_whole) others

theorem IsWhole.ne_nil {text : List Char} (whole : IsWhole text) : text ≠ [] := by
  rcases whole with rfl | ⟨⟨c, rest, rfl, _⟩, _⟩ <;> exact List.cons_ne_nil _ _

theorem IsWhole.take {text : List Char} (whole : IsWhole text) {count : Nat} (some : 0 < count) :
    IsWhole (text.take count) := by
  obtain ⟨less, rfl⟩ := Nat.exists_eq_succ_of_ne_zero (Nat.ne_of_gt some)
  rcases whole with rfl | ⟨⟨c, rest, rfl, nonzero⟩, digits⟩
  · exact .inl (by simp)
  · exact .inr ⟨⟨c, rest.take less, rfl, nonzero⟩, fun d member => digits d (List.mem_of_mem_take member)⟩

theorem isWhole_digitsOf_append {n : Nat} (positive : 0 < n) {more : List Char}
    (digits : ∀ c ∈ more, c.isDigit = true) : IsWhole (digitsOf n ++ more) := by
  obtain ⟨c, rest, first, nonzero⟩ := digitsOf_eq_cons positive
  refine .inr ⟨⟨c, rest ++ more, by rw [first]; rfl, nonzero⟩, ?_⟩
  intro d member
  exact (List.mem_append.mp member).elim isDigit_of_mem_digitsOf (digits d)

theorem isWhole_digitsOf (n : Nat) : IsWhole (digitsOf n) := by
  rcases Nat.eq_zero_or_pos n with rfl | positive
  · exact .inl (by decide)
  · have whole : IsWhole (digitsOf n ++ []) := isWhole_digitsOf_append positive nofun
    rwa [List.append_nil] at whole

/-- The text of a number without its sign. -/
def IsUnsigned (text : List Char) : Prop :=
  ∃ final, NumberStage.sign.run text = some final ∧ final.isFinal = true

/-- The text of a number without its sign, and without an exponent. -/
def IsDecimal (text : List Char) : Prop :=
  ∃ final, NumberStage.sign.run text = some final ∧ final.isFinal = true ∧ final ≠ .exponent

theorem IsDecimal.isUnsigned {text : List Char} (decimal : IsDecimal text) : IsUnsigned text := by
  obtain ⟨final, run, ends, _⟩ := decimal
  exact ⟨final, run, ends⟩

theorem IsWhole.isDecimal {text : List Char} (whole : IsWhole text) : IsDecimal text := by
  rcases whole.run with run | run
  · exact ⟨_, run, rfl, nofun⟩
  · exact ⟨_, run, rfl, nofun⟩

/-- Behind the point one digit at least. -/
theorem isDecimal_places {whole places : List Char} (front : IsWhole whole) (some : places ≠ [])
    (digits : ∀ c ∈ places, c.isDigit = true) : IsDecimal (whole ++ '.' :: places) := by
  cases places with
  | nil => exact absurd rfl some
  | cons c rest =>
    have ⟨first, others⟩ := List.forall_mem_cons.mp digits
    have behind : NumberStage.point.run (c :: rest) = .some .places := by
      rw [NumberStage.run_cons]
      simp only [NumberStage.next, first, if_true]
      exact NumberStage.run_digits (fun _ => NumberStage.next_places) others
    refine ⟨.places, ?_, rfl, nofun⟩
    rcases front.run with run | run
    · rw [NumberStage.run_append, run]
      exact behind
    · rw [NumberStage.run_append, run]
      exact behind

/-- Behind the mark of the exponent a sign and one digit at least. -/
theorem isUnsigned_exponent {front digits : List Char} {sign : Char} (decimal : IsDecimal front)
    (signed : sign = '-' ∨ sign = '+') (some : digits ≠ [])
    (all : ∀ c ∈ digits, c.isDigit = true) : IsUnsigned (front ++ 'e' :: sign :: digits) := by
  obtain ⟨final, run, ends, plain⟩ := decimal
  have mark : final.next 'e' = .some .mark := by
    cases final with
    | zero | whole | places => rfl
    | exponent => exact absurd rfl plain
    | _ => cases ends
  have signs : NumberStage.mark.next sign = .some .exponentSign := by
    rcases signed with rfl | rfl <;> rfl
  cases digits with
  | nil => exact absurd rfl some
  | cons c rest =>
    have ⟨first, others⟩ := List.forall_mem_cons.mp all
    have digit : NumberStage.exponentSign.next c = .some .exponent := by
      simp [NumberStage.next, first]
    refine ⟨.exponent, ?_, rfl⟩
    rw [NumberStage.run_append, run, Option.bind_some, NumberStage.run_cons, mark, Option.bind_some,
      NumberStage.run_cons, signs, Option.bind_some, NumberStage.run_cons, digit]
    exact NumberStage.run_digits (fun _ => NumberStage.next_exponent) others

/-- The text of a number. -/
def IsNumberText (text : List Char) : Prop :=
  ∃ unsigned, IsUnsigned unsigned ∧ (text = unsigned ∨ text = '-' :: unsigned)

theorem IsUnsigned.eq_cons {text : List Char} (unsigned : IsUnsigned text) :
    ∃ c rest, text = c :: rest ∧ c.isDigit = true := by
  obtain ⟨final, stages, ends⟩ := unsigned
  cases text with
  | nil =>
    cases stages
    cases ends
  | cons c rest =>
    refine ⟨c, rest, rfl, ?_⟩
    rw [NumberStage.run_cons] at stages
    obtain ⟨stage, first, _⟩ := Option.bind_eq_some_iff.mp stages
    simp only [NumberStage.next] at first
    split at first
    next zero =>
      rw [zero]
      rfl
    · split at first
      · assumption
      · cases first

theorem IsNumberText.eq_cons {text : List Char} (number : IsNumberText text) :
    ∃ c rest, text = c :: rest ∧ (c = '-' ∨ c.isDigit = true) := by
  obtain ⟨unsigned, begins, rfl | rfl⟩ := number
  · obtain ⟨c, rest, text, digit⟩ := begins.eq_cons
    exact ⟨c, rest, text, .inr digit⟩
  · exact ⟨'-', unsigned, rfl, .inl rfl⟩

/-! ## Binary64 numbers -/

open Decimal (Layout Scaled pointed scientific documentLayout documentText)

private theorem pointed_of_lt {digits : List Char} {places : Nat} (long : places < digits.length) :
    pointed digits places =
      digits.take (digits.length - places) ++ '.' :: digits.drop (digits.length - places) := by
  unfold pointed
  rw [Nat.sub_eq_zero_of_le long]
  rfl

private theorem pointed_of_le {digits : List Char} {places : Nat} (short : digits.length ≤ places) :
    pointed digits places =
      ['0'] ++ '.' :: (List.replicate (places - digits.length) '0' ++ digits) := by
  unfold pointed
  have padding : places + 1 - digits.length = (places - digits.length) + 1 := by omega
  rw [padding, List.replicate_succ]
  have one : (('0' :: List.replicate (places - digits.length) '0') ++ digits).length - places = 1 := by
    simp only [List.length_append, List.length_cons, List.length_replicate]
    omega
  dsimp only
  rw [one]
  rfl

theorem isDecimal_pointed (n : Nat) {places : Nat} (some : 0 < places) :
    IsDecimal (pointed (digitsOf n) places) := by
  by_cases long : places < (digitsOf n).length
  · rw [pointed_of_lt long]
    refine isDecimal_places ((isWhole_digitsOf n).take (by omega)) ?_ ?_
    · intro nothing
      have left := congrArg List.length nothing
      simp only [List.length_drop, List.length_nil] at left
      omega
    · intro c member
      exact isDigit_of_mem_digitsOf (List.mem_of_mem_drop member)
  · have short : (digitsOf n).length ≤ places := Nat.le_of_not_lt long
    rw [pointed_of_le short]
    refine isDecimal_places (.inl rfl) ?_ ?_
    · intro nothing
      have left := congrArg List.length nothing
      simp only [List.length_append, List.length_replicate, List.length_nil] at left
      omega
    · intro c member
      rcases List.mem_append.mp member with zero | digit
      · rw [List.eq_of_mem_replicate zero]
        rfl
      · exact isDigit_of_mem_digitsOf digit

theorem isDecimal_positional (decimal : Scaled) :
    IsDecimal (documentLayout.positional decimal) := by
  unfold Layout.positional
  split
  next negative => exact isDecimal_pointed _ (by omega)
  · show IsDecimal (_ ++ '.' :: ['0'])
    refine isDecimal_places ?_ (List.cons_ne_nil _ _) (fun c member => ?_)
    case refine_2 =>
      rw [List.mem_singleton.mp member]
      rfl
    by_cases zero : decimal.digits = 0
    · rw [if_pos zero, List.append_nil]
      exact isWhole_digitsOf _
    · rw [if_neg zero]
      refine isWhole_digitsOf_append (Nat.pos_of_ne_zero zero) ?_
      intro c member
      rw [List.eq_of_mem_replicate member]
      rfl

theorem isUnsigned_scientific (decimal : Scaled) (leading : Int) :
    IsUnsigned (scientific decimal leading) := by
  unfold scientific
  dsimp only
  refine isUnsigned_exponent ?_ ?_ ?_ fun _ => isDigit_of_mem_digitsOf
  · have front := (isWhole_digitsOf decimal.digits).take Nat.one_pos
    split
    · rw [List.append_nil]
      exact front.isDecimal
    next more =>
      refine isDecimal_places front ?_ ?_
      · intro nothing
        have left := congrArg List.length nothing
        have digits : (digitsOf decimal.digits).length ≠ 0 := by
          simpa using (isWhole_digitsOf decimal.digits).ne_nil
        simp only [List.length_drop, List.length_nil] at left
        omega
      · intro c member
        exact isDigit_of_mem_digitsOf (List.mem_of_mem_drop member)
  · split
    · exact .inl rfl
    · exact .inr rfl
  · exact (isWhole_digitsOf _).ne_nil

theorem isUnsigned_decimal (decimal : Scaled) : IsUnsigned (documentLayout.decimal decimal) := by
  unfold Layout.decimal
  dsimp only [documentLayout]
  split
  · exact (isDecimal_positional decimal).isUnsigned
  · exact isUnsigned_scientific decimal _

theorem isNumberText_documentText {x : Float} (finite : Decimal.isFinite x = true) :
    IsNumberText (documentText x).toList := by
  unfold documentText Layout.render
  rw [String.toList_ofList, if_pos finite]
  refine ⟨_, isUnsigned_decimal ((Decimal.magnitude x).shortest documentLayout.tie), ?_⟩
  split
  · exact .inr rfl
  · exact .inl rfl

namespace Number

/-- A document may have the number, and who reads its text gets it. -/
structure ReadsBack (number : Number) : Prop where
  isText : IsNumberText number.text.toList
  ofText : Number.ofText number.text.toList = some number

theorem toList_text_integer (n : Nat) : (integer n).text.toList = digitsOf n := by
  show (Nat.repr n).toList = _
  rw [Nat.repr, String.toList_ofList]
  rfl

private theorem tokenOfText_of_digits {text : List Char} (digits : ∀ c ∈ text, c.isDigit = true) :
    Token.ofText text = ⟨false, text, none, none⟩ := by
  have whole : text.takeWhile Char.isDigit = text := List.takeWhile_eq_self_iff.mpr digits
  have nothing : text.dropWhile Char.isDigit = [] := List.dropWhile_eq_nil_iff.mpr digits
  have unsigned (head : Char) (member : head ∈ text) : head ≠ '-' :=
    ne_of_isDigit (digits head member) rfl
  unfold Token.ofText
  split
  next negative rest cut =>
    split at cut
    · exact absurd rfl (unsigned '-' List.mem_cons_self)
    · cases cut
      rw [whole, nothing]

theorem readsBack_integer {n : Nat} (small : n < UInt64.size) : (integer n).ReadsBack where
  isText := by
    rw [toList_text_integer]
    exact ⟨_, (isWhole_digitsOf n).isDecimal.isUnsigned, .inl rfl⟩
  ofText := by
    have digits : ∀ c ∈ digitsOf n, c.isDigit = true := fun _ => isDigit_of_mem_digitsOf
    rw [toList_text_integer, Number.ofText, tokenOfText_of_digits digits]
    simp [Token.value, Decimal.natOfDigits_digitsOf, small]

theorem readsBack_floating {x : Float} (finite : Decimal.isFinite x = true)
    (survives : Number.ofText (documentText x).toList = some (.floating x)) :
    (floating x).ReadsBack where
  isText := isNumberText_documentText finite
  ofText := survives

end Number

end Json

end HomeVoice
