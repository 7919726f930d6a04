import Mathlib.Algebra.Order.Field.Power
import Mathlib.Algebra.Order.Field.Rat
import Mathlib.Tactic.NormNum
import HomeVoice.Decimal.Layout
import HomeVoice.Proofs.Decimal.Reading

/-!
# What the text of a number writes

Messages write a decimal with digits and at most one point, and neither moving the point nor the
zeros that this takes change its value.
-/

namespace HomeVoice.Decimal

/-- The number that a decimal is. -/
def Scaled.value (decimal : Scaled) : Rat := decimal.digits * (10 : Rat) ^ decimal.exponent

theorem natOfDigits_append (front back : List Char) :
    natOfDigits (front ++ back) = Nat.ofDigitChars 10 back (natOfDigits front) :=
  Nat.ofDigitChars_append 0

theorem natOfDigits_zeros_append (count : Nat) (digits : List Char) :
    natOfDigits (List.replicate count '0' ++ digits) = natOfDigits digits := by
  have zeros : natOfDigits (List.replicate count '0') = 0 := Nat.ofDigitChars_replicate_zero
  rw [natOfDigits_append, zeros]
  rfl

theorem natOfDigits_append_zeros (digits : List Char) (count : Nat) :
    natOfDigits (digits ++ List.replicate count '0') = 10 ^ count * natOfDigits digits := by
  rw [natOfDigits_append]
  exact Nat.ofDigitChars_replicate_zero

/-- The text is digits, with a point between them if any stand behind it, that write the decimal. -/
structure Writes (text : List Char) (decimal : Scaled) (whole places : List Char) : Prop where
  text : text = whole ++ fraction places
  nonempty : whole ≠ []
  digits : ∀ c ∈ whole ++ places, c.isDigit = true
  value : Scaled.value ⟨natOfDigits (whole ++ places), -(places.length : Int)⟩ = decimal.value

theorem isDigit_zero {count : Nat} {c : Char} (member : c ∈ List.replicate count '0') :
    c.isDigit = true := by
  rw [List.eq_of_mem_replicate member]
  rfl

/-- The point goes between the digits, in front of which there are zeros if they are too few. -/
theorem writes_pointed {decimal : Scaled} (negative : decimal.exponent < 0) :
    ∃ whole places,
      Writes (pointed (digitsOf decimal.digits) (-decimal.exponent).toNat) decimal whole
        places := by
  generalize count : (-decimal.exponent).toNat = places
  generalize enough :
    List.replicate (places + 1 - (digitsOf decimal.digits).length) '0' ++ digitsOf decimal.digits =
      padded
  have long : places < padded.length := by
    rw [← enough, List.length_append, List.length_replicate]
    omega
  have behind : (padded.drop (padded.length - places)).length = places := by
    rw [List.length_drop]
    omega
  refine ⟨padded.take (padded.length - places), padded.drop (padded.length - places), ?_, ?_, ?_,
    ?_⟩
  · unfold pointed
    dsimp only
    rw [enough]
    cases cut : padded.drop (padded.length - places) with
    | nil =>
      rw [cut, List.length_nil] at behind
      omega
    | cons _ _ => rfl
  · intro none
    have front := congrArg List.length none
    rw [List.length_take, List.length_nil] at front
    omega
  · rw [List.take_append_drop, ← enough]
    exact List.forall_mem_append.mpr ⟨fun c => isDigit_zero, fun c => isDigit_of_mem_digitsOf⟩
  · rw [List.take_append_drop, behind, ← enough, natOfDigits_zeros_append, natOfDigits_digitsOf]
    unfold Scaled.value
    have exponent : -(places : Int) = decimal.exponent := by omega
    rw [exponent]

theorem writes_positional (decimal : Scaled) :
    ∃ whole places, Writes (messageLayout.positional decimal) decimal whole places := by
  unfold Layout.positional
  split
  next negative => exact writes_pointed negative
  next above =>
    have exponent : ((decimal.exponent.toNat : Nat) : Int) = decimal.exponent := by omega
    refine ⟨digitsOf decimal.digits ++
      if decimal.digits = 0 then [] else List.replicate decimal.exponent.toNat '0', [], rfl, ?_, ?_,
      ?_⟩
    · exact List.append_ne_nil_of_left_ne_nil Nat.toDigits_ne_nil _
    · rw [List.append_nil]
      refine List.forall_mem_append.mpr ⟨fun c => isDigit_of_mem_digitsOf, fun c member => ?_⟩
      split at member
      · cases member
      · exact isDigit_zero member
    · rw [List.append_nil]
      unfold Scaled.value
      show (natOfDigits _ : Rat) * (10 : Rat) ^ (0 : Int) = _
      rw [zpow_zero, mul_one]
      split
      next zero => rw [List.append_nil, natOfDigits_digitsOf, zero, Nat.cast_zero, zero_mul]
      next =>
        rw [natOfDigits_append_zeros, natOfDigits_digitsOf, ← exponent, zpow_natCast]
        push_cast
        exact mul_comm _ _

section Text

variable {x : Float}

/-- A sign for a negative number, the negative zero included, and the text of its magnitude. -/
theorem toList_messageText (finite : isFinite x = true) :
    (messageText x).toList = (if isNegative x then ['-'] else []) ++
      messageLayout.positional ((magnitude x).shortest messageLayout.tie) := by
  unfold messageText Layout.render
  rw [String.toList_ofList, if_pos finite]
  rfl

theorem isBlank_of_mem_messageText (finite : isFinite x = true) :
    ∀ c ∈ (messageText x).toList, Text.isBlank c = false := by
  obtain ⟨whole, places, text, _, digits, _⟩ :=
    writes_positional ((magnitude x).shortest messageLayout.tie)
  have ⟨front, back⟩ := List.forall_mem_append.mp digits
  rw [toList_messageText finite, text]
  refine List.forall_mem_append.mpr ⟨?_, List.forall_mem_append.mpr ⟨?_, ?_⟩⟩
  · intro c member
    split at member
    · rw [List.mem_singleton.mp member]
      decide
    · cases member
  · exact fun c member => Text.isBlank_of_isDigit (front c member)
  · cases places with
    | nil => nofun
    | cons digit rest =>
      refine List.forall_mem_cons.mpr ⟨by decide, fun c member => ?_⟩
      exact Text.isBlank_of_isDigit (back c member)

end Text

end HomeVoice.Decimal
