import HomeVoice.Decimal.Reading
import HomeVoice.Proofs.Json.Number
import HomeVoice.Text.Blank

/-!
# The digits of a number are read as the number

A text of digits has neither a sign, a point or an exponent nor blanks at its ends, and what is
read is the binary64 number nearest to the number that the digits write.
-/

namespace HomeVoice

theorem Text.isBlank_of_isDigit {c : Char} (digit : c.isDigit = true) : isBlank c = false := by
  have apart : ∀ range ∈ blankTable, range.2 < 48 ∨ 57 < range.1 := by decide
  obtain ⟨above, below⟩ := Bool.and_eq_true_iff.mp digit
  have above : 48 ≤ c.toNat := of_decide_eq_true above
  have below : c.toNat ≤ 57 := of_decide_eq_true below
  refine Bool.eq_false_iff.mpr fun blank => ?_
  obtain ⟨range, member, first, last⟩ := inTable_iff.mp blank
  have := apart range member
  omega

theorem Text.trim_of_no_blank {text : List Char} (solid : ∀ c ∈ text, isBlank c = false) :
    trim text = text := by
  have untouched {text : List Char} (solid : ∀ c ∈ text, isBlank c = false) :
      text.dropWhile isBlank = text := by
    cases text with
    | nil => rfl
    | cons c rest => rw [List.dropWhile_cons, solid c List.mem_cons_self, if_neg nofun]
  unfold trim trimStart
  rw [untouched solid, untouched fun c member => solid c (List.mem_reverse.mp member),
    List.reverse_reverse]

namespace Decimal

variable {n : Nat}

theorem toLower_of_isDigit {c : Char} (digit : c.isDigit = true) : c.toLower = c := by
  have below : c.toNat ≤ 57 := of_decide_eq_true (Bool.and_eq_true_iff.mp digit).2
  have small : ¬ ('A'.val ≤ c.val ∧ c.val ≤ 'Z'.val) := by
    rintro ⟨above, _⟩
    have above : 65 ≤ c.toNat := above
    omega
  exact dif_neg small

theorem toList_toString (n : Nat) : (toString n).toList = digitsOf n := by
  rw [Nat.toString_eq_repr, Nat.toList_repr]
  rfl

theorem nearest_natural (small : (digitsOf n).length ≤ 310) : nearest n 0 = Float.ofNat n := by
  have leading : (0 : Int) + (Nat.toDigits 10 n).length ≤ 310 := by
    show (0 : Int) + (digitsOf n).length ≤ 310
    omega
  unfold nearest
  dsimp only
  by_cases zero : n = 0
  · rw [zero, if_pos (.inl rfl)]
    rfl
  · rw [if_neg (by omega), if_neg (by omega)]
    rfl

/-- The digits behind a point, and the point if there are any. -/
def fraction : List Char → List Char
  | [] => []
  | digit :: places => '.' :: digit :: places

section Digits

variable {whole places : List Char}

/-- Digits, and more of them behind a point if there is one, are read as the decimal they write. -/
theorem readUnsigned_digits (nonempty : whole ≠ [])
    (digits : ∀ c ∈ whole ++ places, c.isDigit = true) :
    readUnsigned (whole ++ fraction places) =
      some (nearest (natOfDigits (whole ++ places)) (-(places.length : Int))) := by
  have ⟨front, back⟩ := List.forall_mem_append.mp digits
  have noWord {word : List Char} (letter : word.head?.all Char.isDigit = false) :
      (whole ++ fraction places).map Char.toLower ≠ word := by
    obtain ⟨first, rest, rfl⟩ := List.exists_cons_of_ne_nil nonempty
    have digit := front first List.mem_cons_self
    rintro rfl
    change first.toLower.isDigit = false at letter
    rw [toLower_of_isDigit digit, digit] at letter
    cases letter
  have ends : (fraction places).takeWhile Char.isDigit = [] ∧
      (fraction places).dropWhile Char.isDigit = fraction places := by
    cases places <;> exact ⟨rfl, rfl⟩
  unfold readUnsigned
  dsimp only
  rw [if_neg (not_or.mpr ⟨noWord (by decide), noWord (by decide)⟩), if_neg (noWord (by decide)),
    List.takeWhile_append_of_pos front, List.dropWhile_append_of_pos front, ends.1, ends.2,
    List.append_nil]
  refine (if_neg fun none => nonempty none.1).trans ?_
  cases places with
  | nil => rfl
  | cons digit rest =>
    show (readExponent ((digit :: rest).dropWhile Char.isDigit)).map (fun tens =>
      nearest (natOfDigits (whole ++ (digit :: rest).takeWhile Char.isDigit))
        (tens - ((digit :: rest).takeWhile Char.isDigit).length)) = _
    rw [List.takeWhile_eq_self_iff.mpr back, List.dropWhile_eq_nil_iff.mpr back]
    exact congrArg (fun tens => some (nearest _ tens)) (Int.zero_sub _)

/-- A text that begins with a digit has no sign. -/
theorem readNumber_of_isDigit {text : List Char} (digit : ∀ c ∈ text.head?, c.isDigit = true) :
    readNumber (String.ofList text) = readUnsigned text := by
  unfold readNumber
  rw [String.toList_ofList]
  split
  next => exact absurd (digit '-' rfl) (by decide)
  next => exact absurd (digit '+' rfl) (by decide)
  next => rfl

end Digits

/-- The digits of a number, if they are not too many, are read as the number. -/
theorem readNumber_toString (small : (digitsOf n).length ≤ 310) :
    readNumber (toString n) = some (Float.ofNat n) := by
  have digits : ∀ c ∈ digitsOf n ++ [], c.isDigit = true := by
    rw [List.append_nil]
    exact fun c => isDigit_of_mem_digitsOf
  have read : readUnsigned (digitsOf n ++ fraction []) =
      some (nearest (natOfDigits (digitsOf n ++ [])) 0) :=
    readUnsigned_digits Nat.toDigits_ne_nil digits
  rw [List.append_nil, natOfDigits_digitsOf] at read
  have text : toString n = String.ofList (digitsOf n) := by
    rw [← toList_toString, String.ofList_toList]
  have first : ∀ c ∈ (digitsOf n).head?, c.isDigit = true := fun c member =>
    isDigit_of_mem_digitsOf (List.mem_of_mem_head? member)
  rw [text, readNumber_of_isDigit first, ← List.append_nil (digitsOf n)]
  exact read.trans (congrArg some (nearest_natural small))

end Decimal

end HomeVoice
