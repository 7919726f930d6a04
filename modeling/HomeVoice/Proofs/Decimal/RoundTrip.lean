import HomeVoice.Proofs.Decimal.Layout
import HomeVoice.Proofs.Decimal.Nearest

/-!
# The text of a number is read as the number

The shortest decimal lies between the halfway points next to its number, which a comparison of whole
numbers tells exactly, and so this number is what its text is read as.
-/

namespace HomeVoice.Decimal

section Comparison

variable {left right : Nat} {tens twos : Int}

theorem pow_toNat {base : Rat} (nonzero : base ≠ 0) (exponent : Int) :
    base ^ exponent.toNat = base ^ exponent * base ^ (-exponent).toNat := by
  rw [← zpow_natCast, ← zpow_natCast, ← zpow_add₀ nonzero]
  congr 1
  omega

/-- Both sides of a comparison are multiplied until they are whole. -/
theorem compareScaled_scale : ∃ scale : Rat, 0 < scale ∧
    ((left * Nat.pow 10 tens.toNat * Nat.pow 2 (-twos).toNat : Nat) : Rat) =
      left * (10 : Rat) ^ tens * scale ∧
    ((right * Nat.pow 2 twos.toNat * Nat.pow 10 (-tens).toNat : Nat) : Rat) =
      right * (2 : Rat) ^ twos * scale := by
  refine ⟨(10 : Rat) ^ (-tens).toNat * (2 : Rat) ^ (-twos).toNat, by positivity, ?_, ?_⟩
  · show ((left * 10 ^ tens.toNat * 2 ^ (-twos).toNat : Nat) : Rat) = _
    push_cast
    rw [pow_toNat (by norm_num) tens]
    ring
  · show ((right * 2 ^ twos.toNat * 10 ^ (-tens).toNat : Nat) : Rat) = _
    push_cast
    rw [pow_toNat (by norm_num) twos]
    ring

theorem compareScaled_eq_lt :
    compareScaled left tens right twos = .lt ↔
      left * (10 : Rat) ^ tens < right * (2 : Rat) ^ twos := by
  obtain ⟨scale, positive, first, second⟩ := @compareScaled_scale left right tens twos
  unfold compareScaled
  rw [Nat.compare_eq_lt, ← Nat.cast_lt (α := Rat), first, second, mul_lt_mul_iff_left₀ positive]

theorem compareScaled_eq_eq :
    compareScaled left tens right twos = .eq ↔
      left * (10 : Rat) ^ tens = right * (2 : Rat) ^ twos := by
  obtain ⟨scale, positive, first, second⟩ := @compareScaled_scale left right tens twos
  unfold compareScaled
  rw [Nat.compare_eq_eq, ← Nat.cast_inj (R := Rat), first, second, mul_left_inj' positive.ne']

theorem compareScaled_eq_gt :
    compareScaled left tens right twos = .gt ↔
      right * (2 : Rat) ^ twos < left * (10 : Rat) ^ tens := by
  obtain ⟨scale, positive, first, second⟩ := @compareScaled_scale left right tens twos
  unfold compareScaled
  rw [Nat.compare_eq_gt, ← Nat.cast_lt (α := Rat), first, second, mul_lt_mul_iff_left₀ positive]

end Comparison

/-- The magnitude of a number other than zero. It knows where the exponents change. -/
structure Magnitude.Proper (x : Magnitude) : Prop where
  canonical : Canonical x.mantissa x.exponent
  positive : 0 < x.mantissa
  narrow : x.mantissa = 2 ^ 52 → -1074 < x.exponent → x.narrowBelow = true

namespace Magnitude

variable {x : Magnitude} {decimal : Scaled}

/-- The size of a magnitude. -/
def size (x : Magnitude) : Rat := x.mantissa * (2 : Rat) ^ x.exponent

/-- The point below is a half away from the mantissa, and a quarter where the exponents change. -/
theorem Proper.exists_gap (proper : x.Proper) : ∃ gap : Rat, gap ≤ 1 / 2 ∧
    (x.mantissa = 2 ^ 52 → -1074 < x.exponent → gap = 1 / 4) ∧
    (((if x.narrowBelow then 4 * x.mantissa - 1 else 4 * x.mantissa - 2 : Nat) : Rat) *
      (2 : Rat) ^ (x.exponent - 2)) = (x.mantissa - gap) * (2 : Rat) ^ x.exponent := by
  have positive := proper.positive
  have quarter : (2 : Rat) ^ x.exponent = 4 * (2 : Rat) ^ (x.exponent - 2) := by
    rw [zpow_sub₀ (by norm_num)]
    ring
  rw [quarter]
  by_cases narrow : x.narrowBelow = true
  · refine ⟨1 / 4, by norm_num, fun _ _ => rfl, ?_⟩
    rw [if_pos narrow, Nat.cast_sub (by omega)]
    push_cast
    ring
  · refine ⟨1 / 2, le_refl _, fun power normal => absurd (proper.narrow power normal) narrow, ?_⟩
    rw [if_neg narrow, Nat.cast_sub (by omega)]
    push_cast
    ring

/-- A decimal that reads back lies between the halfway points next to the magnitude. -/
theorem Proper.roundsTo (proper : x.Proper) (back : x.readsBack decimal = true) :
    RoundsTo decimal.value x.mantissa x.exponent := by
  obtain ⟨gap, most, narrow, low⟩ := proper.exists_gap
  have positive := zpow_two_pos x.exponent
  have high : ((4 * x.mantissa + 2 : Nat) : Rat) * (2 : Rat) ^ (x.exponent - 2) =
      (x.mantissa + 1 / 2) * (2 : Rat) ^ x.exponent := by
    rw [zpow_sub₀ (by norm_num)]
    push_cast
    ring
  have far : ((x.mantissa : Rat) - 1 / 2) * (2 : Rat) ^ x.exponent ≤
      (x.mantissa - gap) * (2 : Rat) ^ x.exponent :=
    mul_le_mul_of_nonneg_right (by linarith) positive.le
  unfold readsBack at back
  simp only [Bool.and_eq_true, Bool.or_eq_true, beq_iff_eq, compareScaled_eq_gt,
    compareScaled_eq_eq, compareScaled_eq_lt, low, high] at back
  obtain ⟨above, below⟩ := back
  change _ < decimal.value ∨ _ ∧ decimal.value = _ at above
  change decimal.value < _ ∨ _ ∧ decimal.value = _ at below
  have least : (x.mantissa - gap) * (2 : Rat) ^ x.exponent ≤ decimal.value :=
    above.elim le_of_lt fun ends => ends.2.ge
  refine ⟨proper.canonical, proper.positive, far.trans least, fun power normal => ?_,
    below.elim le_of_lt fun ends => ends.2.le, fun odd => ⟨?_, ?_⟩⟩
  · rw [← narrow power normal]
    exact least
  · exact far.trans_lt (above.resolve_right fun ends => by omega)
  · exact below.resolve_right fun ends => by omega

/-- Zeros at the end are moved into the exponent. -/
theorem value_strip (decimal : Scaled) (limit : Nat) :
    (decimal.strip limit).value = decimal.value := by
  induction limit generalizing decimal with
  | zero => rfl
  | succ limit ih =>
    unfold Scaled.strip
    split
    next zeros =>
      rw [ih]
      have tenth : (decimal.digits : Rat) = 10 * (decimal.digits / 10 : Nat) := by
        exact_mod_cast show decimal.digits = 10 * (decimal.digits / 10) by omega
      unfold Scaled.value
      rw [tenth, zpow_add_one₀ (by norm_num)]
      ring
    next => rfl

theorem readsBack_of_onGrid {tie : Tie} {tens : Int} (found : x.onGrid tie tens = some decimal) :
    x.readsBack decimal = true := by
  unfold onGrid at found
  dsimp only at found
  generalize lower : (⟨x.divideTens tens, tens⟩ : Scaled) = first at found
  generalize upper : (⟨x.divideTens tens + 1, tens⟩ : Scaled) = second at found
  split at found
  · cases found
  next below _ =>
    cases found
    exact below
  next _ above =>
    cases found
    exact above
  next below above =>
    have either : decimal = first ∨ decimal = second := by
      split at found
      · exact .inl (Option.some.inj found).symm
      · exact .inr (Option.some.inj found).symm
      · split at found
        · have chosen := Option.some.inj found
          split at chosen
          · exact .inl chosen.symm
          · exact .inr chosen.symm
        · exact .inr (Option.some.inj found).symm
    rcases either with rfl | rfl
    · exact below
    · exact above

theorem value_exactDecimal (x : Magnitude) : x.exactDecimal.value = x.size := by
  unfold exactDecimal Scaled.value size
  show ((x.mantissa * 2 ^ x.exponent.toNat * 5 ^ (-x.exponent).toNat : Nat) : Rat) *
    (10 : Rat) ^ (-((-x.exponent).toNat : Int)) = _
  have ten : (10 : Rat) ^ (-x.exponent).toNat =
      2 ^ (-x.exponent).toNat * 5 ^ (-x.exponent).toNat := by
    rw [← mul_pow]
    norm_num
  rw [zpow_neg, zpow_natCast, ten]
  push_cast
  rw [pow_toNat (by norm_num) x.exponent]
  field_simp

/-- The shortest decimal of a magnitude is nearest to it. -/
theorem Proper.roundsTo_shortest (proper : x.Proper) (tie : Tie) :
    RoundsTo (x.shortest tie).value x.mantissa x.exponent := by
  unfold shortest
  rw [if_neg proper.positive.ne']
  dsimp only
  split
  next decimal found =>
    obtain ⟨places, _, hit⟩ := List.exists_of_findSome?_eq_some found
    rw [value_strip]
    exact proper.roundsTo (readsBack_of_onGrid hit)
  next =>
    rw [value_exactDecimal]
    exact .refl proper.canonical proper.positive

end Magnitude

theorem proper_magnitude {x : Float} (nonzero : (magnitude x).mantissa ≠ 0) :
    (magnitude x).Proper where
  canonical := canonical_magnitude x
  positive := Nat.pos_of_ne_zero nonzero
  narrow power normal := by
    have bound := fractionBits_lt x
    unfold magnitude at power normal ⊢
    by_cases least : exponentBits x = 0
    · rw [if_pos least] at normal
      exact absurd normal (Int.lt_irrefl _)
    · rw [if_neg least] at power normal ⊢
      dsimp only at power normal ⊢
      exact decide_eq_true ⟨by omega, by omega⟩

section Text

variable {x : Float}

theorem nearest_of_value_eq_zero {digits : Nat} {tens : Int}
    (none : Scaled.value ⟨digits, tens⟩ = 0) : nearest digits tens = 0 := by
  have zero : digits = 0 := by
    have factors := mul_eq_zero.mp none
    exact_mod_cast factors.resolve_right (zpow_pos (by norm_num) tens).ne'
  unfold nearest
  exact if_pos (.inl zero)

/-- A decimal with the value of the shortest one is read as the number without its sign. -/
theorem exists_nearest (finite : isFinite x = true) : ∃ size : Float,
    (∀ digits tens, Scaled.value ⟨digits, tens⟩ = ((magnitude x).shortest messageLayout.tie).value →
      nearest digits tens = size) ∧
    x = if isNegative x then -size else size := by
  by_cases zero : (magnitude x).mantissa = 0
  · refine ⟨0, fun digits tens same => nearest_of_value_eq_zero ?_, eq_zero zero⟩
    rw [same, Magnitude.shortest, if_pos zero]
    exact zero_mul _
  · have proper := proper_magnitude zero
    have top := exponent_le finite
    refine ⟨_, fun digits tens => nearest_eq (proper.roundsTo_shortest _) top, ?_⟩
    rw [neg_packed proper.canonical top]
    refine (eq_packed finite proper.positive).trans ?_
    unfold signOf
    cases isNegative x <;> rfl

/-- A finite number is read from its own text. -/
theorem readNumber_messageText (finite : isFinite x = true) :
    readNumber (messageText x) = some x := by
  obtain ⟨size, read, sign⟩ := exists_nearest finite
  obtain ⟨whole, places, text, nonempty, digits, value⟩ :=
    writes_positional ((magnitude x).shortest messageLayout.tie)
  have unsigned : readUnsigned (messageLayout.positional
      ((magnitude x).shortest messageLayout.tie)) = some size := by
    rw [text, readUnsigned_digits nonempty digits, read _ _ value]
  rw [← String.ofList_toList (s := messageText x), toList_messageText finite]
  cases negative : isNegative x with
  | true =>
    rw [negative, if_pos rfl] at sign
    unfold readNumber
    rw [String.toList_ofList, if_pos rfl]
    show (readUnsigned (messageLayout.positional
      ((magnitude x).shortest messageLayout.tie))).map Neg.neg = some x
    rw [unsigned]
    exact congrArg some sign.symm
  | false =>
    rw [negative, if_neg Bool.false_ne_true] at sign
    have first : ∀ c ∈ (whole ++ fraction places).head?, c.isDigit = true := by
      obtain ⟨digit, rest, rfl⟩ := List.exists_cons_of_ne_nil nonempty
      rintro _ ⟨⟩
      exact digits digit List.mem_cons_self
    rw [if_neg Bool.false_ne_true, List.nil_append, readNumber_of_isDigit (text ▸ first), unsigned,
      sign]

end Text

end HomeVoice.Decimal
