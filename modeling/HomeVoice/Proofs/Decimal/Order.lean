import Mathlib.Algebra.Order.Field.Power
import Mathlib.Algebra.Order.Field.Rat
import Mathlib.Tactic.NormNum
import Mathlib.Tactic.Ring
import HomeVoice.Decimal.Binary

/-!
# The order of binary64 numbers is that of their exact values

Of two magnitudes the one with the greater exponent is greater, and of two with one exponent the one
with the greater mantissa. That is how binary64 numbers are compared, so a finite number is less
than another one only if its exact value is less.
-/

namespace HomeVoice.Decimal

open Float.Model (UnpackedFloat Format)
open Float.Model.UnpackedFloat (Sign unpackExponent unpackMantissa unpackSign)

section Fields

/-! The fields of a number are those that its unpacking cuts out. -/

variable (x : Float)

theorem toNat_unpackExponent :
    (@unpackExponent .binary64 x.toModel.toBits.toBitVec).toNat = exponentBits x := by
  show _ = ((x.toModel.toBits >>> 52) &&& 0x7FF).toNat
  unfold unpackExponent
  simp only [BitVec.toNat_cast, BitVec.extractLsb, BitVec.extractLsb'_toNat, UInt64.toNat_and,
    UInt64.toNat_shiftRight]
  exact (Nat.and_two_pow_sub_one_eq_mod (x.toModel.toBits.toNat >>> 52) 11).symm

theorem toNat_unpackMantissa :
    (@unpackMantissa .binary64 x.toModel.toBits.toBitVec).toNat = fractionBits x := by
  show _ = (x.toModel.toBits &&& 0xFFFFFFFFFFFFF).toNat
  unfold unpackMantissa
  simp only [BitVec.toNat_cast, BitVec.extractLsb, BitVec.extractLsb'_toNat, UInt64.toNat_and,
    Nat.shiftRight_zero]
  exact (Nat.and_two_pow_sub_one_eq_mod x.toModel.toBits.toNat 52).symm

theorem ofBitVec_unpackSign :
    Sign.ofBitVec (@unpackSign .binary64 x.toModel.toBits.toBitVec) =
      if isNegative x then .negative else .positive := by
  have bit : (@unpackSign .binary64 x.toModel.toBits.toBitVec).toNat =
      x.toModel.toBits.toNat >>> 63 % 2 := by
    unfold unpackSign
    simp only [BitVec.toNat_cast, BitVec.extractLsb, BitVec.extractLsb'_toNat]
    rfl
  have positive : @unpackSign .binary64 x.toModel.toBits.toBitVec = 0#1 ↔
      ¬ isNegative x = true := by
    show _ ↔ ¬ (x.toModel.toBits >>> 63 == 1) = true
    have size : x.toModel.toBits.toNat < 0x10000000000000000 := x.toModel.toBits.toNat_lt
    rw [beq_iff_eq, ← UInt64.toNat_inj, UInt64.toNat_shiftRight, ← BitVec.toNat_inj, bit]
    show x.toModel.toBits.toNat >>> 63 % 2 = 0 ↔ ¬ x.toModel.toBits.toNat >>> 63 = 1
    omega
  unfold Sign.ofBitVec
  by_cases negative : isNegative x = true
  · rw [if_pos negative, if_neg (mt positive.mp (not_not_intro negative))]
  · rw [if_neg negative, if_pos (positive.mpr negative)]

theorem fractionBits_lt : fractionBits x < 0x10000000000000 := by
  rw [← toNat_unpackMantissa]
  exact BitVec.isLt _

end Fields

/-- A mantissa and an exponent that a number has. -/
structure Canonical (mantissa : Nat) (exponent : Int) : Prop where
  small : mantissa < 0x20000000000000
  least : -1074 ≤ exponent
  normal : -1074 < exponent → 0x10000000000000 ≤ mantissa

/-- A size with a sign. -/
def signed : Sign → Rat → Rat
  | .positive, size => size
  | .negative, size => -size

/-- The sign of a number. -/
def signOf (x : Float) : Sign := if isNegative x then .negative else .positive

section Unpacking

variable {x : Float}

theorem exponentBits_lt (finite : isFinite x = true) : exponentBits x < 2047 := by
  have bound : exponentBits x < 2048 := by
    rw [← toNat_unpackExponent]
    exact BitVec.isLt _
  have notAll : exponentBits x ≠ 2047 := by
    intro all
    unfold isFinite at finite
    rw [all] at finite
    exact absurd finite (by decide)
  omega

theorem canonical_magnitude (x : Float) :
    Canonical (magnitude x).mantissa (magnitude x).exponent := by
  have bound := fractionBits_lt x
  unfold magnitude
  split
  · exact ⟨by dsimp only; omega, Int.le_refl _, fun above => absurd above (Int.lt_irrefl _)⟩
  · exact ⟨by dsimp only; omega, by dsimp only; omega, fun _ => Nat.le_add_right _ _⟩

theorem exactValue_eq_signed (x : Float) : exactValue x =
    signed (signOf x) ((magnitude x).mantissa * (2 : Rat) ^ (magnitude x).exponent) := by
  unfold exactValue signOf
  by_cases negative : isNegative x = true <;> simp [negative, signed]

theorem finite_congr {sign sign' : Sign} {mantissa mantissa' : Nat} {exponent exponent' : Int}
    {positive : 0 < mantissa} {positive' : 0 < mantissa'} (signs : sign = sign')
    (mantissas : mantissa = mantissa') (exponents : exponent = exponent') :
    UnpackedFloat.finite sign mantissa exponent positive =
      .finite sign' mantissa' exponent' positive' := by
  cases signs
  cases mantissas
  cases exponents
  rfl

/-- A finite number unpacked: a zero, or a sign, a mantissa and an exponent. -/
theorem unpack_eq (finite : isFinite x = true) :
    x.toModel.unpack =
      if positive : 0 < (magnitude x).mantissa then
        .finite (signOf x) (magnitude x).mantissa (magnitude x).exponent positive
      else .zero (signOf x) := by
  have notAll : ¬ @unpackExponent .binary64 x.toModel.toBits.toBitVec = -1#11 := by
    intro all
    have value := congrArg BitVec.toNat all
    rw [toNat_unpackExponent] at value
    exact absurd (exponentBits_lt finite) (by rw [value]; decide)
  have bias : (Format.binary64.exponentBias : Int) +
      (Format.binary64.mantissaBitsWithoutImplicit : Nat) = 1075 := rfl
  have implicit : (1#1 ++ @unpackMantissa .binary64 x.toModel.toBits.toBitVec).toNat =
      0x10000000000000 + fractionBits x := by
    rw [BitVec.toNat_append, ← Nat.shiftLeft_add_eq_or_of_lt (BitVec.isLt _), toNat_unpackMantissa]
    rfl
  unfold Float.Model.unpack UnpackedFloat.unpack magnitude
  dsimp only
  rw [ofBitVec_unpackSign, if_neg notAll]
  by_cases least : exponentBits x = 0
  · have zero : @unpackExponent .binary64 x.toModel.toBits.toBitVec = 0#11 :=
      BitVec.eq_of_toNat_eq ((toNat_unpackExponent x).trans least)
    rw [if_pos zero, if_pos least]
    dsimp only
    by_cases nothing : fractionBits x = 0
    · have none : @unpackMantissa .binary64 x.toModel.toBits.toBitVec = 0#52 :=
        BitVec.eq_of_toNat_eq ((toNat_unpackMantissa x).trans nothing)
      rw [dif_pos none, dif_neg (by omega)]
      rfl
    · have some : ¬ @unpackMantissa .binary64 x.toModel.toBits.toBitVec = 0#52 := by
        intro none
        exact nothing ((toNat_unpackMantissa x).symm.trans (congrArg BitVec.toNat none))
      rw [dif_neg some, dif_pos (Nat.pos_of_ne_zero nothing)]
      refine finite_congr rfl (toNat_unpackMantissa x) ?_
      rw [toNat_unpackExponent, least, bias]
      rfl
  · have above : ¬ @unpackExponent .binary64 x.toModel.toBits.toBitVec = 0#11 := by
      intro zero
      exact least ((toNat_unpackExponent x).symm.trans (congrArg BitVec.toNat zero))
    rw [if_neg above, if_neg least]
    dsimp only
    rw [dif_pos (by omega)]
    refine finite_congr rfl implicit ?_
    rw [toNat_unpackExponent, bias]

/-- A finite number is a zero, or it has a sign, a mantissa and an exponent. -/
theorem unpack_cases (finite : isFinite x = true) :
    (∃ sign, x.toModel.unpack = .zero sign) ∧ exactValue x = 0 ∨
      ∃ sign mantissa exponent positive,
        x.toModel.unpack = .finite sign mantissa exponent positive ∧
        Canonical mantissa exponent ∧
        exactValue x = signed sign ((mantissa : Rat) * (2 : Rat) ^ exponent) := by
  have unpacked := unpack_eq finite
  by_cases positive : 0 < (magnitude x).mantissa
  · rw [dif_pos positive] at unpacked
    exact .inr ⟨_, _, _, positive, unpacked, canonical_magnitude x, exactValue_eq_signed x⟩
  · rw [dif_neg positive] at unpacked
    refine .inl ⟨⟨_, unpacked⟩, ?_⟩
    rw [exactValue_eq_signed, Nat.eq_zero_of_not_pos positive, Nat.cast_zero, zero_mul]
    cases signOf x <;> simp [signed]

end Unpacking

/-- The exponents of two magnitudes, and then their mantissas, tell which is the lesser. -/
theorem magnitude_lt {mantissa mantissa' : Nat} {exponent exponent' : Int}
    (first : Canonical mantissa exponent) (second : Canonical mantissa' exponent')
    (below : exponent < exponent' ∨ exponent = exponent' ∧ mantissa < mantissa') :
    (mantissa : Rat) * (2 : Rat) ^ exponent < (mantissa' : Rat) * (2 : Rat) ^ exponent' := by
  have positive (exponent : Int) : (0 : Rat) < (2 : Rat) ^ exponent :=
    zpow_pos (by norm_num) exponent
  rcases below with lower | ⟨rfl, fewer⟩
  · have large : (0x10000000000000 : Rat) ≤ mantissa' := by
      exact_mod_cast second.normal (Int.lt_of_le_of_lt first.least lower)
    have small : (mantissa : Rat) < 0x20000000000000 := by exact_mod_cast first.small
    calc (mantissa : Rat) * (2 : Rat) ^ exponent
        < 0x20000000000000 * (2 : Rat) ^ exponent := mul_lt_mul_of_pos_right small (positive _)
      _ = 0x10000000000000 * (2 : Rat) ^ (exponent + 1) := by
        rw [zpow_add_one₀ (by norm_num)]
        ring
      _ ≤ 0x10000000000000 * (2 : Rat) ^ exponent' := by
        refine mul_le_mul_of_nonneg_left ?_ (by norm_num)
        exact zpow_le_zpow_right₀ (by norm_num) lower
      _ ≤ (mantissa' : Rat) * (2 : Rat) ^ exponent' :=
        mul_le_mul_of_nonneg_right large (positive _).le
  · have fewer : (mantissa : Rat) < mantissa' := by exact_mod_cast fewer
    exact mul_lt_mul_of_pos_right fewer (positive _)

/-- A magnitude has only one mantissa and one exponent. -/
theorem magnitude_inj {mantissa mantissa' : Nat} {exponent exponent' : Int}
    (first : Canonical mantissa exponent) (second : Canonical mantissa' exponent')
    (same : (mantissa : Rat) * (2 : Rat) ^ exponent = (mantissa' : Rat) * (2 : Rat) ^ exponent') :
    exponent = exponent' ∧ mantissa = mantissa' := by
  rcases lt_trichotomy exponent exponent' with lower | rfl | higher
  · exact absurd same (magnitude_lt first second (.inl lower)).ne
  · rcases lt_trichotomy mantissa mantissa' with fewer | rfl | more
    · exact absurd same (magnitude_lt first second (.inr ⟨rfl, fewer⟩)).ne
    · exact ⟨rfl, rfl⟩
    · exact absurd same (magnitude_lt second first (.inr ⟨rfl, more⟩)).ne'
  · exact absurd same (magnitude_lt second first (.inl higher)).ne'

theorem magnitude_pos {mantissa : Nat} (exponent : Int) (positive : 0 < mantissa) :
    (0 : Rat) < mantissa * (2 : Rat) ^ exponent := by
  have positive : (0 : Rat) < mantissa := by exact_mod_cast positive
  exact mul_pos positive (zpow_pos (by norm_num) exponent)

/-- A finite number that is less than another one has the lesser exact value. -/
theorem exactValue_lt {x y : Float} (left : isFinite x = true) (right : isFinite y = true)
    (below : x < y) : exactValue x < exactValue y := by
  have compared : x.toModel.unpack.lt y.toModel.unpack = true :=
    of_decide_eq_true (p := x.toModel < y.toModel) below
  rcases unpack_cases left with ⟨⟨sign, unpacked⟩, value⟩ |
      ⟨sign, mantissa, exponent, positive, unpacked, canonical, value⟩ <;>
    rcases unpack_cases right with ⟨⟨sign', unpacked'⟩, value'⟩ |
      ⟨sign', mantissa', exponent', positive', unpacked', canonical', value'⟩ <;>
    rw [unpacked, unpacked'] at compared <;> rw [value, value']
  · cases compared
  · cases sign' with
    | negative => cases compared
    | positive => exact magnitude_pos exponent' positive'
  · cases sign with
    | positive => cases compared
    | negative => exact neg_lt_zero.mpr (magnitude_pos exponent positive)
  · cases sign <;> cases sign'
    case negative.positive =>
      exact (neg_lt_zero.mpr (magnitude_pos exponent positive)).trans (magnitude_pos exponent' positive')
    case positive.negative => cases compared
    case positive.positive =>
      refine magnitude_lt canonical canonical' ?_
      have less : (compare exponent exponent').then (compare mantissa mantissa') = .lt :=
        Option.some.inj (beq_iff_eq.mp compared)
      simpa [Ordering.then_eq_lt, compare_lt_iff_lt, compare_eq_iff_eq] using less
    case negative.negative =>
      refine neg_lt_neg (magnitude_lt canonical' canonical ?_)
      have less : ((compare exponent exponent').then (compare mantissa mantissa')).swap = .lt :=
        Option.some.inj (beq_iff_eq.mp compared)
      rw [Ordering.swap_eq_lt, Ordering.then_eq_gt, Std.compare_eq_gt, Std.compare_eq_gt,
        Std.compare_eq_iff_eq] at less
      exact less.imp id fun ⟨same, fewer⟩ => ⟨same.symm, fewer⟩

/-- Finite numbers are the same if and only if their exact values are. -/
theorem beq_iff_exactValue_eq {x y : Float} (left : isFinite x = true)
    (right : isFinite y = true) : x.beq y = true ↔ exactValue x = exactValue y := by
  show x.toModel.unpack.beq y.toModel.unpack = true ↔ _
  rcases unpack_cases left with ⟨⟨sign, unpacked⟩, value⟩ |
      ⟨sign, mantissa, exponent, positive, unpacked, canonical, value⟩ <;>
    rcases unpack_cases right with ⟨⟨sign', unpacked'⟩, value'⟩ |
      ⟨sign', mantissa', exponent', positive', unpacked', canonical', value'⟩ <;>
    rw [unpacked, unpacked', value, value']
  · exact iff_of_true rfl rfl
  · have size := magnitude_pos exponent' positive'
    cases sign' with
    | positive => exact iff_of_false nofun size.ne
    | negative => exact iff_of_false nofun (neg_lt_zero.mpr size).ne'
  · have size := magnitude_pos exponent positive
    cases sign with
    | positive => exact iff_of_false nofun size.ne'
    | negative => exact iff_of_false nofun (neg_lt_zero.mpr size).ne
  · have size := magnitude_pos exponent positive
    have size' := magnitude_pos exponent' positive'
    have equal : exponent = exponent' ∧ mantissa = mantissa' ↔
        (mantissa : Rat) * (2 : Rat) ^ exponent = mantissa' * (2 : Rat) ^ exponent' := by
      refine ⟨?_, magnitude_inj canonical canonical'⟩
      rintro ⟨rfl, rfl⟩
      rfl
    cases sign <;> cases sign'
    case positive.positive =>
      show (some ((compare exponent exponent').then (compare mantissa mantissa')) == some .eq) =
        true ↔ _
      simp only [signed, ← equal, beq_iff_eq, Option.some.injEq, Ordering.then_eq_eq,
        Std.compare_eq_iff_eq]
    case negative.negative =>
      show (some ((compare exponent exponent').then (compare mantissa mantissa')).swap ==
        some .eq) = true ↔ _
      simp only [signed, neg_inj, ← equal, beq_iff_eq, Option.some.injEq, Ordering.swap_eq_eq,
        Ordering.then_eq_eq, Std.compare_eq_iff_eq]
    case positive.negative =>
      exact iff_of_false nofun ((neg_lt_zero.mpr size').trans size).ne'
    case negative.positive =>
      exact iff_of_false nofun ((neg_lt_zero.mpr size).trans size').ne

end HomeVoice.Decimal
