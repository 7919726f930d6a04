import HomeVoice.Proofs.Decimal.Order

/-!
# Binary64 numbers and their fields

A number is its sign, its exponent and its fraction, so a finite one is what its sign, its mantissa
and its exponent are packed to, and what is packed is unpacked as it was.
-/

namespace HomeVoice.Decimal

open Float.Model (UnpackedFloat Format)
open Float.Model.UnpackedFloat (Sign packComponents unpackSign unpackExponent_packComponents
  unpackMantissa_packComponents)

/-- The number of an unpacked one. -/
def packed (unpacked : UnpackedFloat) : Float := .ofModel (Float.Model.pack unpacked)

/-- A number is told by its sign, its exponent and its fraction. -/
theorem eq_of_fields {x y : Float} (sign : isNegative x = isNegative y)
    (exponent : exponentBits x = exponentBits y) (fraction : fractionBits x = fractionBits y) :
    x = y := by
  obtain ⟨⟨bits, valid⟩⟩ := x
  obtain ⟨⟨bits', valid'⟩⟩ := y
  have same : bits = bits' := by
    have sign : (bits >>> 63 == 1) = (bits' >>> 63 == 1) := sign
    have exponent : ((bits >>> 52) &&& 0x7FF).toNat = ((bits' >>> 52) &&& 0x7FF).toNat := exponent
    have fraction : (bits &&& 0xFFFFFFFFFFFFF).toNat = (bits' &&& 0xFFFFFFFFFFFFF).toNat := fraction
    have size : bits.toNat < 0x10000000000000000 := bits.toNat_lt
    have size' : bits'.toNat < 0x10000000000000000 := bits'.toNat_lt
    rw [Bool.eq_iff_iff, beq_iff_eq, beq_iff_eq, ← UInt64.toNat_inj, ← UInt64.toNat_inj,
      UInt64.toNat_shiftRight, UInt64.toNat_shiftRight] at sign
    simp only [UInt64.toNat_and, UInt64.toNat_shiftRight] at exponent fraction
    have cut (n places : Nat) : n &&& (2 ^ places - 1) = n % 2 ^ places :=
      Nat.and_two_pow_sub_one_eq_mod n places
    change bits.toNat >>> 63 = 1 ↔ bits'.toNat >>> 63 = 1 at sign
    change bits.toNat >>> 52 &&& (2 ^ 11 - 1) = bits'.toNat >>> 52 &&& (2 ^ 11 - 1) at exponent
    change bits.toNat &&& (2 ^ 52 - 1) = bits'.toNat &&& (2 ^ 52 - 1) at fraction
    rw [cut, cut] at exponent fraction
    rw [← UInt64.toNat_inj]
    omega
  cases same
  rfl

section Fields

variable {sign : Sign} {field : BitVec 11} {fraction : BitVec 52}

theorem unpackSign_packComponents :
    @unpackSign .binary64 (packComponents .binary64 sign field fraction) = sign.toBitVec := by
  have bit : (sign.toBitVec ++ field ++ fraction).getLsbD 63 = sign.toBitVec.getLsbD 0 := by
    rw [BitVec.getLsbD_append, BitVec.getLsbD_append]
    rfl
  refine BitVec.eq_of_getLsbD_eq fun i inside => ?_
  have only : i = 0 := by omega
  subst only
  unfold unpackSign packComponents
  rw [BitVec.getLsbD_cast, BitVec.getLsbD_extractLsb]
  exact bit

variable {x : Float}
  (bits : x.toModel.toBits.toBitVec = packComponents .binary64 sign field fraction)

include bits

theorem isNegative_of_bits : isNegative x = (sign == .negative) := by
  have unpacked := ofBitVec_unpackSign x
  rw [bits, unpackSign_packComponents] at unpacked
  by_cases negative : isNegative x = true
  · rw [if_pos negative] at unpacked
    cases sign with
    | negative => exact negative
    | positive => cases unpacked
  · rw [if_neg negative] at unpacked
    cases sign with
    | negative => cases unpacked
    | positive => exact Bool.eq_false_iff.mpr negative

theorem exponentBits_of_bits : exponentBits x = field.toNat := by
  rw [← toNat_unpackExponent, bits]
  exact congrArg BitVec.toNat unpackExponent_packComponents

theorem fractionBits_of_bits : fractionBits x = fraction.toNat := by
  rw [← toNat_unpackMantissa, bits]
  exact congrArg BitVec.toNat unpackMantissa_packComponents

end Fields

section Packing

variable {sign : Sign} {mantissa : Nat} {exponent : Int} {positive : 0 < mantissa}

theorem toBitVec_packed (canonical : Canonical mantissa exponent) (top : exponent ≤ 971) :
    (packed (.finite sign mantissa exponent positive)).toModel.toBits.toBitVec =
      packComponents .binary64 sign
        (BitVec.ofNat 11 (if mantissa < 2 ^ 52 then 0 else (exponent + 1075).toNat))
        (BitVec.ofNat 52 mantissa) := by
  have least := canonical.least
  have bias : exponent + (Format.binary64.exponentBias : Int) +
      (Format.binary64.mantissaBitsWithoutImplicit : Nat) = exponent + 1075 := by
    show exponent + 1023 + 52 = exponent + 1075
    omega
  show UnpackedFloat.pack .binary64 (.finite sign mantissa exponent positive) = _
  unfold UnpackedFloat.pack
  dsimp only
  rw [bias, if_neg (show ¬ 2 ^ 11 ≤ (exponent + 1075).toNat + 1 by omega)]
  by_cases small : mantissa < 2 ^ 52
  · have short : mantissa.log2 < 52 := (Nat.log2_lt positive.ne').mpr small
    have few : ¬ mantissa.log2 + 1 = Format.binary64.mantissaBits := by
      show ¬ mantissa.log2 + 1 = 53
      omega
    rw [if_neg few, if_pos small]
  · have long : mantissa.log2 = 52 :=
      (Nat.log2_eq_iff positive.ne').mpr ⟨Nat.le_of_not_lt small, canonical.small⟩
    rw [long, if_pos (show 52 + 1 = Format.binary64.mantissaBits from rfl), if_neg small]

theorem isNegative_packed (canonical : Canonical mantissa exponent) (top : exponent ≤ 971) :
    isNegative (packed (.finite sign mantissa exponent positive)) = (sign == .negative) :=
  isNegative_of_bits (toBitVec_packed canonical top)

theorem exponentBits_packed (canonical : Canonical mantissa exponent) (top : exponent ≤ 971) :
    exponentBits (packed (.finite sign mantissa exponent positive)) =
      if mantissa < 2 ^ 52 then 0 else (exponent + 1075).toNat := by
  have least := canonical.least
  rw [exponentBits_of_bits (toBitVec_packed canonical top), BitVec.toNat_ofNat]
  refine Nat.mod_eq_of_lt ?_
  split <;> omega

theorem fractionBits_packed (canonical : Canonical mantissa exponent) (top : exponent ≤ 971) :
    fractionBits (packed (.finite sign mantissa exponent positive)) = mantissa % 2 ^ 52 := by
  rw [fractionBits_of_bits (toBitVec_packed canonical top), BitVec.toNat_ofNat]

theorem isFinite_packed (canonical : Canonical mantissa exponent) (top : exponent ≤ 971) :
    isFinite (packed (.finite sign mantissa exponent positive)) = true := by
  unfold isFinite
  rw [exponentBits_packed canonical top, bne_iff_ne]
  split <;> omega

/-- What is packed is unpacked as it was. -/
theorem unpack_packed (canonical : Canonical mantissa exponent) (top : exponent ≤ 971) :
    (packed (.finite sign mantissa exponent positive)).toModel.unpack =
      .finite sign mantissa exponent positive := by
  have small := canonical.small
  have least := canonical.least
  have normal := canonical.normal
  have digits : (magnitude (packed (.finite sign mantissa exponent positive))).mantissa = mantissa ∧
      (magnitude (packed (.finite sign mantissa exponent positive))).exponent = exponent := by
    unfold magnitude
    rw [exponentBits_packed canonical top, fractionBits_packed canonical top]
    by_cases subnormal : mantissa < 2 ^ 52
    · rw [if_pos (if_pos subnormal)]
      constructor <;> dsimp only <;> omega
    · rw [if_neg subnormal, if_neg (by omega)]
      constructor <;> dsimp only <;> omega
  have signed : signOf (packed (.finite sign mantissa exponent positive)) = sign := by
    unfold signOf
    rw [isNegative_packed canonical top]
    cases sign <;> rfl
  have some : 0 < (magnitude (packed (.finite sign mantissa exponent positive))).mantissa := by
    rw [digits.1]
    exact positive
  rw [unpack_eq (isFinite_packed canonical top), dif_pos some]
  exact finite_congr signed digits.1 digits.2

theorem neg_packed (canonical : Canonical mantissa exponent) (top : exponent ≤ 971) :
    -packed (.finite .positive mantissa exponent positive) =
      packed (.finite .negative mantissa exponent positive) := by
  show packed (packed (.finite .positive mantissa exponent positive)).toModel.unpack.neg = _
  rw [unpack_packed canonical top]
  rfl

end Packing

section Finite

variable {x : Float}

theorem exponent_le (finite : isFinite x = true) : (magnitude x).exponent ≤ 971 := by
  have bound := exponentBits_lt finite
  unfold magnitude
  split <;> dsimp only <;> omega

/-- A number is its sign, its mantissa and its exponent. -/
theorem eq_packed (finite : isFinite x = true) (positive : 0 < (magnitude x).mantissa) :
    x = packed (.finite (signOf x) (magnitude x).mantissa (magnitude x).exponent positive) := by
  have canonical := canonical_magnitude x
  have top := exponent_le finite
  have bound := fractionBits_lt x
  refine eq_of_fields ?_ ?_ ?_
  · rw [isNegative_packed canonical top]
    unfold signOf
    cases isNegative x <;> rfl
  · rw [exponentBits_packed canonical top]
    unfold magnitude
    by_cases least : exponentBits x = 0
    · rw [if_pos least, if_pos (by dsimp only; omega), least]
    · rw [if_neg least, if_neg (by dsimp only; omega)]
      dsimp only
      omega
  · rw [fractionBits_packed canonical top]
    unfold magnitude
    by_cases least : exponentBits x = 0
    · rw [if_pos least]
      dsimp only
      omega
    · rw [if_neg least]
      dsimp only
      omega

/-- There are two zeros. -/
theorem eq_zero (none : (magnitude x).mantissa = 0) :
    x = if isNegative x then -0 else 0 := by
  have fields : exponentBits x = 0 ∧ fractionBits x = 0 := by
    unfold magnitude at none
    split at none
    next least => exact ⟨least, none⟩
    next => cases Nat.add_eq_zero_iff.mp none |>.1
  refine eq_of_fields ?_ ?_ ?_
  · cases isNegative x <;> decide +kernel
  · rw [fields.1]
    cases isNegative x <;> decide +kernel
  · rw [fields.2]
    cases isNegative x <;> decide +kernel

end Finite

end HomeVoice.Decimal
