import HomeVoice.Decimal.Reading
import HomeVoice.Proofs.Decimal.Rounding

/-!
# A decimal is read as the nearest number

Small digits and small powers of ten are numbers themselves, and one multiplication or division of
them is rounded once. All other decimals are multiplied or divided out before they are rounded.
Either way the number is the one that the decimal is nearest to.
-/

namespace HomeVoice.Decimal

open Float.Model (UnpackedFloat)

/-- A number is nearest to itself. -/
theorem RoundsTo.refl {mantissa : Nat} {exponent : Int} (canonical : Canonical mantissa exponent)
    (positive : 0 < mantissa) :
    RoundsTo ((mantissa : Rat) * (2 : Rat) ^ exponent) mantissa exponent where
  canonical := canonical
  positive := positive
  above := mul_le_mul_of_nonneg_right (by linarith) (zpow_two_pos exponent).le
  narrow _ _ := mul_le_mul_of_nonneg_right (by linarith) (zpow_two_pos exponent).le
  below := mul_le_mul_of_nonneg_right (by linarith) (zpow_two_pos exponent).le
  odd _ := ⟨mul_lt_mul_of_pos_right (by linarith) (zpow_two_pos exponent),
    mul_lt_mul_of_pos_right (by linarith) (zpow_two_pos exponent)⟩

section Natural

variable {n places : Nat}

/-- A number of 53 bits has room for its last places. -/
theorem canonical_natural (positive : 0 < n) (room : n.log2 + places = 52) :
    Canonical (n * 2 ^ places) (-(places : Int)) := by
  refine ⟨?_, by omega, fun _ => ?_⟩
  · calc n * 2 ^ places
        < 2 ^ (n.log2 + 1) * 2 ^ places :=
          Nat.mul_lt_mul_of_pos_right Nat.lt_log2_self (Nat.two_pow_pos places)
      _ = 2 ^ 53 := by
        rw [← Nat.pow_add]
        congr 1
        omega
  · calc 2 ^ 52 = 2 ^ n.log2 * 2 ^ places := by rw [← Nat.pow_add, room]
      _ ≤ n * 2 ^ places := Nat.mul_le_mul_right _ (Nat.log2_self_le positive.ne')

theorem value_natural (n places : Nat) :
    ((n * 2 ^ places : Nat) : Rat) * (2 : Rat) ^ (-(places : Int)) = n := by
  rw [zpow_neg, zpow_natCast]
  push_cast
  exact mul_inv_cancel_right₀ (pow_ne_zero _ (by norm_num)) _

theorem ofNat_eq (positive : 0 < n) (room : n.log2 + places = 52) {some : 0 < n * 2 ^ places} :
    UnpackedFloat.ofNat .binary64 n =
      .finite .positive (n * 2 ^ places) (-(places : Int)) some := by
  have canonical := canonical_natural positive room
  have order : compare (n : Int) 0 = .gt := Int.compare_eq_gt.mpr (by omega)
  have shift : (0 - max ((n.log2 : Int) + 0 - 52) (-1074)).toNat = places := by omega
  unfold UnpackedFloat.ofNat UnpackedFloat.ofInt UnpackedFloat.normalize
  rw [order]
  unfold UnpackedFloat.round UnpackedFloat.decreaseExponent
  dsimp only
  rw [Int.toNat_natCast, targetExponent_eq, shift, Nat.shiftLeft_eq, Int.zero_sub]
  have normal := canonical.normal (by omega)
  refine roundWithAccuracy_eq (RoundsTo.refl canonical some) ?_ (.inr normal) _
  exact mul_div_cancel_right₀ _ (zpow_two_pos _).ne'

/-- A number of 53 bits is not rounded. -/
theorem unpack_toFloat (positive : 0 < n) (small : n < 2 ^ 53) :
    ∃ mantissa exponent some, n.toUInt64.toFloat.toModel.unpack =
        .finite .positive mantissa exponent some ∧ 2 ^ 52 ≤ mantissa ∧
      (mantissa : Rat) * (2 : Rat) ^ exponent = n := by
  have short : n.log2 < 53 := (Nat.log2_lt positive.ne').mpr small
  obtain ⟨places, room⟩ : ∃ places, n.log2 + places = 52 := ⟨52 - n.log2, by omega⟩
  have canonical := canonical_natural positive room
  have some : 0 < n * 2 ^ places := Nat.mul_pos positive (Nat.two_pow_pos places)
  have word : n.toUInt64.toNat = n := by
    rw [Nat.toUInt64_eq, UInt64.toNat_ofNat_of_lt' (small.trans (by decide))]
  refine ⟨n * 2 ^ places, -(places : Int), some, ?_, canonical.normal (by omega),
    value_natural n places⟩
  show (packed (UnpackedFloat.ofNat .binary64 n.toUInt64.toNat)).toModel.unpack = _
  rw [word, ofNat_eq positive room]
  exact unpack_packed canonical (by omega)

end Natural

theorem exactValue_powersOfTen : ∀ tens : Fin 23,
    isFinite Float.exactlyRepresentablePowersOfTen[tens.val] = true ∧
      isNegative Float.exactlyRepresentablePowersOfTen[tens.val] = false ∧
      exactValue Float.exactlyRepresentablePowersOfTen[tens.val] = (10 : Rat) ^ tens.val := by
  decide +kernel

theorem unpack_powersOfTen (tens : Fin 23) :
    ∃ mantissa exponent some, Float.exactlyRepresentablePowersOfTen[tens.val].toModel.unpack =
        .finite .positive mantissa exponent some ∧
      (mantissa : Rat) * (2 : Rat) ^ exponent = (10 : Rat) ^ tens.val := by
  obtain ⟨finite, sign, value⟩ := exactValue_powersOfTen tens
  have signed : signOf Float.exactlyRepresentablePowersOfTen[tens.val] = .positive :=
    if_neg (Bool.eq_false_iff.mp sign)
  rw [exactValue_eq_signed, signed] at value
  have unpacked := unpack_eq finite
  have some : 0 < (magnitude Float.exactlyRepresentablePowersOfTen[tens.val]).mantissa := by
    refine Nat.pos_of_ne_zero fun none => ?_
    rw [none, Nat.cast_zero] at value
    exact absurd value.symm (by simp [Decimal.signed])
  rw [dif_pos some, signed] at unpacked
  exact ⟨_, _, some, unpacked, value⟩

section Scientific

variable {number : Rat} {mantissa : Nat} {exponent : Int} {digits : Nat} {tens : Int}

theorem RoundsTo.number_pos (rounds : RoundsTo number mantissa exponent) : 0 < number := by
  have positive : (1 : Rat) ≤ mantissa := by exact_mod_cast rounds.positive
  exact (mul_pos (by linarith) (zpow_two_pos exponent)).trans_le rounds.above

theorem zpow_natAbs_of_nonneg (nonneg : 0 ≤ tens) :
    (10 : Rat) ^ tens = (10 : Rat) ^ tens.natAbs := by
  rw [← zpow_natCast, Int.natAbs_of_nonneg nonneg]

theorem zpow_natAbs_of_neg (negative : tens < 0) :
    (10 : Rat) ^ tens = ((10 : Rat) ^ tens.natAbs)⁻¹ := by
  rw [← zpow_natCast, ← zpow_neg, Int.ofNat_natAbs_of_nonpos negative.le, Int.neg_neg]

/-- Few digits and a small power of ten are numbers, of which one product or quotient is taken. -/
theorem ofScientific_eq_of_few (rounds : RoundsTo number mantissa exponent)
    (value : (digits : Rat) * (10 : Rat) ^ tens = number) (positive : 0 < digits)
    (few : digits < 2 ^ 53) (near : tens.natAbs ≤ 22) :
    Float.ofScientific digits (decide (tens < 0)) tens.natAbs =
      packed (.finite .positive mantissa exponent rounds.positive) := by
  obtain ⟨first, place, some, unpacked, many, whole⟩ := unpack_toFloat positive few
  obtain ⟨second, place', some', unpacked', power⟩ := unpack_powersOfTen ⟨tens.natAbs, by omega⟩
  unfold Float.ofScientific
  rw [dif_pos ⟨few, near⟩]
  dsimp only
  by_cases negative : tens < 0
  · rw [if_pos (decide_eq_true negative)]
    show packed (UnpackedFloat.div .binary64 _ _) = _
    rw [unpacked, unpacked']
    refine congrArg packed (div_eq rounds ?_)
    rw [whole, power, ← value, zpow_natAbs_of_neg negative, div_eq_mul_inv]
  · rw [if_neg (by simpa using negative)]
    show packed (UnpackedFloat.mul .binary64 _ _) = _
    rw [unpacked, unpacked']
    refine congrArg packed (mul_eq rounds ?_ (many.trans (Nat.le_mul_of_pos_right _ some')))
    rw [whole, power, ← value, zpow_natAbs_of_nonneg (Int.not_lt.mp negative)]

/-- Numbers that are rounded to a finite one other than zero are neither too small nor too large. -/
theorem RoundsTo.bounds (rounds : RoundsTo number mantissa exponent) (top : exponent ≤ 971) :
    (2 : Rat) ^ (-1075 : Int) ≤ number ∧ number < (2 : Rat) ^ (1024 : Int) := by
  constructor
  · have positive : (1 : Rat) ≤ mantissa := by exact_mod_cast rounds.positive
    calc (2 : Rat) ^ (-1075 : Int)
        = 1 / 2 * (2 : Rat) ^ (-1074 : Int) := by
          rw [show (-1075 : Int) = -1074 - 1 from rfl, zpow_sub_one₀ (by norm_num), mul_comm,
            one_div]
      _ ≤ 1 / 2 * (2 : Rat) ^ exponent := by
        refine mul_le_mul_of_nonneg_left ?_ (by norm_num)
        exact zpow_le_zpow_right₀ (by norm_num) rounds.canonical.least
      _ ≤ ((mantissa : Rat) - 1 / 2) * (2 : Rat) ^ exponent :=
        mul_le_mul_of_nonneg_right (by linarith) (zpow_two_pos exponent).le
      _ ≤ number := rounds.above
  · exact rounds.lt_zpow.trans_le (zpow_le_zpow_right₀ (by norm_num) (by omega))

theorem ofScientific_eq_of_many (rounds : RoundsTo number mantissa exponent) (top : exponent ≤ 971)
    (value : (digits : Rat) * (10 : Rat) ^ tens = number) (positive : 0 < digits)
    (near : tens ≤ 310) :
    UnpackedFloat.ofScientific .binary64 digits tens =
      .finite .positive mantissa exponent rounds.positive := by
  have notTiny : ¬ tens < -(2 ^ 11 + (digits.log2 : Int)) := by
    intro tiny
    have fewer : (digits : Rat) < (2 : Rat) ^ (digits.log2 + 1) := by
      exact_mod_cast Nat.lt_log2_self
    have less : (10 : Rat) ^ tens ≤ (2 : Rat) ^ tens := by
      rw [show (10 : Rat) = 2 * 5 by norm_num, mul_zpow]
      exact mul_le_of_le_one_right (zpow_two_pos tens).le
        (zpow_le_one_of_nonpos₀ (by norm_num) (by omega))
    have small : number < (2 : Rat) ^ (tens + (digits.log2 + 1 : Nat)) := by
      rw [zpow_two_add, ← value]
      exact mul_lt_mul_of_lt_of_le_of_pos_of_nonneg fewer less (zpow_pos (by norm_num) tens)
        (by positivity)
    have := lt_of_zpow_two_lt ((rounds.bounds top).1.trans_lt small)
    omega
  unfold UnpackedFloat.ofScientific
  rw [dif_neg positive.ne', if_neg (show ¬ tens > 2 ^ 11 by omega), if_neg notTiny]
  by_cases nonneg : 0 ≤ tens
  · have power : (10 : Rat) ^ tens = (10 ^ tens.toNat : Nat) := by
      rw [← Int.toNat_of_nonneg nonneg, zpow_natCast]
      push_cast
      rfl
    rw [if_pos nonneg]
    refine mul_eq rounds ?_ ?_
    · show ((digits <<< 53 : Nat) : Rat) * (2 : Rat) ^ (-(53 : Nat) : Int) *
        ((10 ^ tens.toNat : Nat) * (2 : Rat) ^ (0 : Int)) = number
      rw [Nat.shiftLeft_eq, value_natural, zpow_zero, mul_one, ← power, value]
    · show 2 ^ 52 ≤ digits <<< 53 * 10 ^ tens.toNat
      rw [Nat.shiftLeft_eq]
      calc 2 ^ 52 ≤ digits * 2 ^ 53 := by omega
        _ ≤ digits * 2 ^ 53 * 10 ^ tens.toNat :=
          Nat.le_mul_of_pos_right _ (Nat.pow_pos (by decide))
  · have power : (10 : Rat) ^ tens = ((10 ^ (-tens).toNat : Nat) : Rat)⁻¹ := by
      rw [show tens = -((-tens).toNat : Int) by omega, zpow_neg, zpow_natCast]
      push_cast
      congr 2
      omega
    rw [if_neg nonneg]
    refine div_eq rounds ?_
    show (digits : Rat) * (2 : Rat) ^ (0 : Int) /
      ((10 ^ (-tens).toNat : Nat) * (2 : Rat) ^ (0 : Int)) = number
    rw [zpow_zero, mul_one, mul_one, div_eq_mul_inv, ← power, value]

theorem ofScientific_eq (rounds : RoundsTo number mantissa exponent) (top : exponent ≤ 971)
    (value : (digits : Rat) * (10 : Rat) ^ tens = number) (positive : 0 < digits)
    (near : tens ≤ 310) :
    Float.ofScientific digits (decide (tens < 0)) tens.natAbs =
      packed (.finite .positive mantissa exponent rounds.positive) := by
  by_cases few : digits < 2 ^ 53 ∧ tens.natAbs ≤ 22
  · exact ofScientific_eq_of_few rounds value positive few.1 few.2
  · have power : (if decide (tens < 0) = true then Int.negOfNat tens.natAbs
        else Int.ofNat tens.natAbs) = tens := by
      by_cases negative : tens < 0
      · rw [if_pos (decide_eq_true negative), Int.negOfNat_eq]
        show -(tens.natAbs : Int) = tens
        omega
      · rw [if_neg (by simpa using negative)]
        show (tens.natAbs : Int) = tens
        omega
    unfold Float.ofScientific
    rw [dif_neg few]
    dsimp only
    rw [power]
    exact congrArg packed (ofScientific_eq_of_many rounds top value positive near)

/-- The count of its digits tells between which powers of ten a number lies. -/
theorem pow_length_toDigits (positive : 0 < digits) :
    10 ^ ((Nat.toDigits 10 digits).length - 1) ≤ digits ∧
      digits < 10 ^ (Nat.toDigits 10 digits).length := by
  generalize count : (Nat.toDigits 10 digits).length = length
  have some : 0 < length := by
    rw [← count]
    exact List.length_pos_iff.mpr Nat.toDigits_ne_nil
  refine ⟨Nat.le_of_not_lt fun less => ?_,
    (Nat.length_toDigits_le_iff (by decide) some).mp count.le⟩
  rcases Nat.eq_zero_or_pos (length - 1) with one | others
  · rw [one] at less
    omega
  · have := (Nat.length_toDigits_le_iff (by decide) others).mpr less
    omega

/-- Where a number is neither too small nor too large, so is the place of its first digit. -/
theorem leading_bounds (positive : 0 < digits)
    (low : (2 : Rat) ^ (-1075 : Int) ≤ digits * (10 : Rat) ^ tens)
    (high : digits * (10 : Rat) ^ tens < (2 : Rat) ^ (1024 : Int)) :
    -330 ≤ tens + (Nat.toDigits 10 digits).length ∧
      tens + (Nat.toDigits 10 digits).length ≤ 310 := by
  obtain ⟨more, fewer⟩ := pow_length_toDigits positive
  generalize (Nat.toDigits 10 digits).length = length at more fewer ⊢
  have ten : (0 : Rat) < (10 : Rat) ^ tens := zpow_pos (by norm_num) tens
  constructor
  · by_contra tiny
    have least : (10 : Rat) ^ (-331 : Int) ≤ (2 : Rat) ^ (-1075 : Int) := by
      rw [zpow_neg, zpow_neg]
      refine inv_anti₀ (zpow_two_pos _) ?_
      exact_mod_cast show (2 : Nat) ^ 1075 ≤ 10 ^ 331 by decide +kernel
    refine low.not_gt ?_
    calc (digits : Rat) * (10 : Rat) ^ tens
        < (10 : Rat) ^ length * (10 : Rat) ^ tens :=
          mul_lt_mul_of_pos_right (by exact_mod_cast fewer) ten
      _ = (10 : Rat) ^ (tens + length) := by rw [zpow_add₀ (by norm_num), zpow_natCast, mul_comm]
      _ ≤ (10 : Rat) ^ (-331 : Int) := zpow_le_zpow_right₀ (by norm_num) (by omega)
      _ ≤ (2 : Rat) ^ (-1075 : Int) := least
  · by_contra huge
    have most : (2 : Rat) ^ (1024 : Int) ≤ (10 : Rat) ^ (310 : Int) := by
      exact_mod_cast show (2 : Nat) ^ 1024 ≤ 10 ^ 310 by decide +kernel
    refine high.not_ge ?_
    calc (2 : Rat) ^ (1024 : Int) ≤ (10 : Rat) ^ (310 : Int) := most
      _ ≤ (10 : Rat) ^ (tens + (length - 1 : Nat)) :=
        zpow_le_zpow_right₀ (by norm_num) (by omega)
      _ = (10 : Rat) ^ (length - 1) * (10 : Rat) ^ tens := by
        rw [zpow_add₀ (by norm_num), zpow_natCast, mul_comm]
      _ ≤ (digits : Rat) * (10 : Rat) ^ tens :=
        mul_le_mul_of_nonneg_right (by exact_mod_cast more) ten.le

/-- A decimal is read as the number that it is nearest to. -/
theorem nearest_eq (rounds : RoundsTo number mantissa exponent) (top : exponent ≤ 971)
    (value : (digits : Rat) * (10 : Rat) ^ tens = number) :
    nearest digits tens = packed (.finite .positive mantissa exponent rounds.positive) := by
  obtain ⟨low, high⟩ := rounds.bounds top
  have positive : 0 < digits := by
    refine Nat.pos_of_ne_zero fun none => ?_
    rw [none, Nat.cast_zero, zero_mul] at value
    exact rounds.number_pos.ne value
  obtain ⟨notTiny, notHuge⟩ :=
    leading_bounds positive (low.trans_eq value.symm) (value.trans_lt high)
  unfold nearest
  dsimp only
  rw [if_neg (by omega), if_neg (by omega)]
  exact ofScientific_eq rounds top value positive (by omega)

end Scientific

end HomeVoice.Decimal
