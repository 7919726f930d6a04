import Mathlib.Tactic.FieldSimp
import Mathlib.Tactic.Linarith
import HomeVoice.Proofs.Decimal.Packing

/-!
# Rounding to the nearest binary64 number

Shifting a mantissa to the right keeps two bits of what is lost, and these are enough to tell which
number is the nearest one. So whatever lies between the halfway points next to a number, and on them
if the mantissa is even, is rounded to it.
-/

namespace HomeVoice.Decimal

open Float.Model (UnpackedFloat Format totalExponent)
open Float.Model.UnpackedFloat (Accuracy ExtendedMantissa Sign roundWithAccuracy
  shiftToTargetExponent shiftToExponent)

/-- What a mantissa and the two bits behind it know of a number. -/
def Describes (shifted : ExtendedMantissa) (number : Rat) : Prop :=
  match shifted.roundBit, shifted.stickyBit with
  | false, false => number = shifted.mantissa
  | false, true => shifted.mantissa < number ∧ number < shifted.mantissa + 1 / 2
  | true, false => number = shifted.mantissa + 1 / 2
  | true, true => shifted.mantissa + 1 / 2 < number ∧ number < shifted.mantissa + 1

namespace Describes

variable {shifted : ExtendedMantissa} {number : Rat}

theorem bounds (describes : Describes shifted number) :
    shifted.mantissa ≤ number ∧ number < shifted.mantissa + 1 := by
  obtain ⟨mantissa, round, sticky⟩ := shifted
  cases round <;> cases sticky <;> dsimp only [Describes] at describes ⊢ <;> constructor <;>
    linarith

/-- The bit that is shifted out comes to stand behind the mantissa. -/
theorem shiftRightOne_eq (half : Nat) (bit round sticky : Bool) :
    (⟨2 * half + bit.toNat, round, sticky⟩ : ExtendedMantissa).shiftRightOne =
      ⟨half, bit, round || sticky⟩ := by
  have small := bit.toNat_le
  have quotient : (2 * half + bit.toNat) / 2 = half := by omega
  have rest : (2 * half + bit.toNat) % 2 = bit.toNat := by omega
  unfold ExtendedMantissa.shiftRightOne
  rw [rest, quotient]
  cases bit <;> rfl

theorem shiftRightOne (describes : Describes shifted number) :
    Describes shifted.shiftRightOne (number / 2) := by
  obtain ⟨mantissa, round, sticky⟩ := shifted
  obtain ⟨half, bit, rfl⟩ : ∃ (half : Nat) (bit : Bool), mantissa = 2 * half + bit.toNat := by
    rcases Nat.mod_two_eq_zero_or_one mantissa with even | odd
    · exact ⟨mantissa / 2, false, by rw [Bool.toNat_false]; omega⟩
    · exact ⟨mantissa / 2, true, by rw [Bool.toNat_true]; omega⟩
  rw [shiftRightOne_eq]
  -- Of the number, each of the eight cases tells where it lies between two halves.
  cases bit <;> cases round <;> cases sticky <;>
    dsimp only [Describes, Bool.or_false, Bool.or_true] at describes ⊢ <;>
    push_cast [Bool.toNat_false, Bool.toNat_true] at describes
  case false.false.false =>
    show number / 2 = half
    linarith
  case true.false.false =>
    show number / 2 = half + 1 / 2
    linarith
  all_goals constructor <;> linarith

theorem shiftRight (describes : Describes shifted number) (places : Nat) :
    Describes (shifted >>> places) (number / 2 ^ places) := by
  induction places with
  | zero => simpa [HShiftRight.hShiftRight, Nat.repeat] using describes
  | succ places ih =>
    rw [pow_succ, ← div_div]
    exact ih.shiftRightOne

/-- A number that is at most a half away from a whole one is rounded to it, if it is less than a
half away or the whole one is even. -/
theorem roundedMantissa (describes : Describes shifted number) {whole : Nat}
    (above : (whole : Rat) - 1 / 2 ≤ number) (below : number ≤ whole + 1 / 2)
    (odd : whole % 2 = 1 → (whole : Rat) - 1 / 2 < number ∧ number < whole + 1 / 2) :
    shifted.roundedMantissa = whole := by
  obtain ⟨mantissa, round, sticky⟩ := shifted
  have most {limit : Nat} (less : (whole : Rat) < limit + 1) : whole ≤ limit := by
    exact Nat.le_of_lt_succ (by exact_mod_cast less)
  have least {limit : Nat} (less : (limit : Rat) < whole + 1) : limit ≤ whole := by
    exact Nat.le_of_lt_succ (by exact_mod_cast less)
  cases round <;> cases sticky <;> dsimp only [Describes] at describes
  case false.false =>
    show mantissa = whole
    exact Nat.le_antisymm (least (by linarith)) (most (by linarith))
  case false.true =>
    show mantissa = whole
    exact Nat.le_antisymm (least (by linarith)) (most (by linarith))
  case true.true =>
    show mantissa + 1 = whole
    exact Nat.le_antisymm (least (by push_cast; linarith)) (most (by push_cast; linarith))
  case true.false =>
    show mantissa + mantissa % 2 = whole
    have lower : mantissa ≤ whole := least (by linarith)
    have upper : whole ≤ mantissa + 1 := most (by push_cast; linarith)
    have even : whole % 2 = 0 := by
      rcases Nat.mod_two_eq_zero_or_one whole with even | odd'
      · exact even
      · obtain ⟨left, right⟩ := odd odd'
        have first : mantissa ≠ whole := by
          rintro rfl
          linarith
        have second : mantissa + 1 ≠ whole := by
          rintro rfl
          push_cast at left
          linarith
        omega
    omega

end Describes

/-- The number is nearest to a mantissa and an exponent: it lies between the halfway points next to
them, of which the one below is nearer where the exponents change, or on one of them if the mantissa
is even. -/
structure RoundsTo (number : Rat) (mantissa : Nat) (exponent : Int) : Prop where
  canonical : Canonical mantissa exponent
  positive : 0 < mantissa
  above : ((mantissa : Rat) - 1 / 2) * (2 : Rat) ^ exponent ≤ number
  narrow : mantissa = 2 ^ 52 → -1074 < exponent →
    ((mantissa : Rat) - 1 / 4) * (2 : Rat) ^ exponent ≤ number
  below : number ≤ ((mantissa : Rat) + 1 / 2) * (2 : Rat) ^ exponent
  odd : mantissa % 2 = 1 → ((mantissa : Rat) - 1 / 2) * (2 : Rat) ^ exponent < number ∧
    number < ((mantissa : Rat) + 1 / 2) * (2 : Rat) ^ exponent

theorem zpow_two_pos (exponent : Int) : (0 : Rat) < (2 : Rat) ^ exponent :=
  zpow_pos (by norm_num) exponent

theorem lt_of_zpow_two_lt {first second : Int} (less : (2 : Rat) ^ first < (2 : Rat) ^ second) :
    first < second :=
  (zpow_lt_zpow_iff_right₀ (by norm_num)).mp less

theorem zpow_two_add (places : Nat) (exponent : Int) :
    (2 : Rat) ^ (exponent + places) = (2 : Rat) ^ places * (2 : Rat) ^ exponent := by
  rw [zpow_add₀ (by norm_num), zpow_natCast, mul_comm]

namespace RoundsTo

variable {number : Rat} {mantissa : Nat} {exponent : Int}

theorem lt_zpow (rounds : RoundsTo number mantissa exponent) :
    number < (2 : Rat) ^ (exponent + (53 : Nat)) := by
  have small : (mantissa : Rat) + 1 ≤ (2 : Rat) ^ 53 := by exact_mod_cast rounds.canonical.small
  rw [zpow_two_add]
  refine rounds.below.trans_lt (mul_lt_mul_of_pos_right ?_ (zpow_two_pos exponent))
  linarith

theorem zpow_le (rounds : RoundsTo number mantissa exponent) (normal : -1074 < exponent) :
    (2 : Rat) ^ (exponent + (51 : Nat)) ≤ number ∧
      (mantissa ≠ 2 ^ 52 → (2 : Rat) ^ (exponent + (52 : Nat)) ≤ number) := by
  have least := rounds.canonical.normal normal
  have positive := zpow_two_pos exponent
  rw [zpow_two_add, zpow_two_add]
  constructor
  · have large : (2 : Rat) ^ 52 ≤ mantissa := by exact_mod_cast least
    refine le_trans (mul_le_mul_of_nonneg_right ?_ positive.le) rounds.above
    linarith
  · intro other
    have large : (2 : Rat) ^ 52 + 1 ≤ mantissa := by
      exact_mod_cast Nat.lt_of_le_of_ne least (Ne.symm other)
    refine le_trans (mul_le_mul_of_nonneg_right ?_ positive.le) rounds.above
    linarith

end RoundsTo

/-- The exponent to which a mantissa is shifted. -/
theorem targetExponent_eq (mantissa : Nat) (exponent : Int) :
    Format.binary64.targetExponent (totalExponent mantissa exponent) =
      max ((mantissa.log2 : Int) + exponent - 52) (-1074) := by
  show max ((mantissa.log2 : Int) + 1 + exponent - 53) (-1074) = _
  congr 1
  omega

section Rounding

variable {number : Rat} {mantissa : Nat} {exponent : Int} {digits : Nat} {place : Int}

theorem number_lt_zpow (upper : number / (2 : Rat) ^ place < (digits : Rat) + 1) :
    number < (2 : Rat) ^ (place + (digits.log2 + 1 : Nat)) := by
  rw [zpow_two_add, ← div_lt_iff₀ (zpow_two_pos place)]
  refine upper.trans_le ?_
  exact_mod_cast Nat.lt_log2_self

theorem zpow_le_number (positive : 0 < digits)
    (lower : (digits : Rat) ≤ number / (2 : Rat) ^ place) :
    (2 : Rat) ^ (place + (digits.log2 : Nat)) ≤ number := by
  rw [zpow_two_add, ← le_div_iff₀ (zpow_two_pos place)]
  refine le_trans ?_ lower
  exact_mod_cast Nat.log2_self_le positive.ne'

/-- Digits are shifted to the exponent of the number that they are nearest to, or to the one below
if that number is a power of two. -/
theorem target_cases (rounds : RoundsTo number mantissa exponent)
    (lower : (digits : Rat) ≤ number / (2 : Rat) ^ place)
    (upper : number / (2 : Rat) ^ place < (digits : Rat) + 1)
    (enough : place ≤ -1074 ∨ 2 ^ 52 ≤ digits) {target : Int}
    (shifted : Format.binary64.targetExponent (totalExponent digits place) = target) :
    place ≤ target ∧ (target = exponent ∨
      target = exponent - 1 ∧ mantissa = 2 ^ 52 ∧ -1074 < exponent ∧
        number < (2 : Rat) ^ (exponent + (52 : Nat))) := by
  rw [targetExponent_eq] at shifted
  have least := rounds.canonical.least
  have top := number_lt_zpow upper
  have long : 2 ^ 52 ≤ digits → 52 ≤ digits.log2 := fun many =>
    (Nat.le_log2 (by omega)).mpr many
  have notBelow : target ≤ exponent := by
    rcases Nat.eq_zero_or_pos digits with rfl | positive
    · have short : Nat.log2 0 = 0 := by decide
      omega
    · have := lt_of_zpow_two_lt ((zpow_le_number positive lower).trans_lt rounds.lt_zpow)
      omega
  refine ⟨by omega, ?_⟩
  by_cases normal : -1074 < exponent
  · obtain ⟨bottom, far⟩ := rounds.zpow_le normal
    have near := lt_of_zpow_two_lt (bottom.trans_lt top)
    by_cases same : target = exponent
    · exact .inl same
    · have power : mantissa = 2 ^ 52 := by
        by_contra other
        have := lt_of_zpow_two_lt ((far other).trans_lt top)
        omega
      refine .inr ⟨by omega, power, normal, top.trans_le ?_⟩
      exact zpow_le_zpow_right₀ (by norm_num) (by omega)
  · exact .inl (by omega)

theorem shiftToTargetExponent_of_small (small : mantissa < 2 ^ 53) (least : -1074 ≤ exponent) :
    shiftToTargetExponent .binary64 mantissa exponent .exact =
      (⟨mantissa, false, false⟩, exponent) := by
  have short : mantissa.log2 ≤ 52 := by
    by_cases zero : mantissa = 0
    · rw [zero]
      decide
    · exact Nat.le_of_lt_succ ((Nat.log2_lt zero).mpr small)
  have stays : (max ((mantissa.log2 : Int) + exponent - 52) (-1074) - exponent).toNat = 0 := by
    omega
  unfold shiftToTargetExponent shiftToExponent
  dsimp only
  rw [targetExponent_eq, stays]
  exact congrArg _ (Int.add_zero exponent)

/-- Rounding up to the next power of two moves the exponent. -/
theorem shiftToTargetExponent_of_carry (least : -1074 ≤ exponent) :
    shiftToTargetExponent .binary64 (2 ^ 53) exponent .exact =
      (⟨2 ^ 52, false, false⟩, exponent + 1) := by
  have one : (max (((2 ^ 53 : Nat).log2 : Int) + exponent - 52) (-1074) - exponent).toNat = 1 := by
    rw [Nat.log2_two_pow]
    omega
  unfold shiftToTargetExponent shiftToExponent
  dsimp only
  rw [targetExponent_eq, one]
  rfl

theorem mantissa_ofMantissaAndAccuracy (accuracy : Accuracy) :
    (ExtendedMantissa.ofMantissaAndAccuracy digits accuracy).mantissa = digits := by
  cases accuracy with
  | exact => rfl
  | inexact order => cases order <;> rfl

/-- Enough digits are rounded to the number that is nearest. -/
theorem roundWithAccuracy_eq (rounds : RoundsTo number mantissa exponent) {accuracy : Accuracy}
    (describes : Describes (.ofMantissaAndAccuracy digits accuracy) (number / (2 : Rat) ^ place))
    (enough : place ≤ -1074 ∨ 2 ^ 52 ≤ digits) (sign : Sign) :
    roundWithAccuracy .binary64 sign digits place accuracy =
      .finite sign mantissa exponent rounds.positive := by
  obtain ⟨lower, upper⟩ := describes.bounds
  rw [mantissa_ofMantissaAndAccuracy] at lower upper
  generalize shifted : Format.binary64.targetExponent (totalExponent digits place) = target
  obtain ⟨up, cases⟩ := target_cases rounds lower upper enough shifted
  have places : place + ((target - place).toNat : Nat) = target := by omega
  have first : shiftToTargetExponent .binary64 digits place accuracy =
      (ExtendedMantissa.ofMantissaAndAccuracy digits accuracy >>> (target - place).toNat,
        target) := by
    unfold shiftToTargetExponent shiftToExponent
    dsimp only
    rw [shifted, places]
  have described := describes.shiftRight (target - place).toNat
  rw [div_div, mul_comm, ← zpow_two_add, places] at described
  unfold roundWithAccuracy
  rw [first]
  dsimp only
  rcases cases with rfl | ⟨rfl, rfl, normal, power⟩
  · have positive := zpow_two_pos target
    have rounded : (ExtendedMantissa.ofMantissaAndAccuracy digits accuracy >>>
        (target - place).toNat).roundedMantissa = mantissa := by
      refine described.roundedMantissa ((le_div_iff₀ positive).mpr rounds.above)
        ((div_le_iff₀ positive).mpr rounds.below) fun odd => ?_
      obtain ⟨left, right⟩ := rounds.odd odd
      exact ⟨(lt_div_iff₀ positive).mpr left, (div_lt_iff₀ positive).mpr right⟩
    rw [rounded, shiftToTargetExponent_of_small rounds.canonical.small rounds.canonical.least]
    exact dif_neg rounds.positive.ne'
  -- Below a power of two the places are half as far apart, and what is rounded to it is rounded up.
  · have positive := zpow_two_pos (exponent - 1)
    have double : (2 : Rat) ^ exponent = 2 * (2 : Rat) ^ (exponent - 1) := by
      rw [← zpow_one_add₀ (by norm_num)]
      congr 1
      omega
    have above := rounds.narrow rfl normal
    rw [zpow_two_add, double] at power
    rw [double] at above
    push_cast at above
    have rounded : (ExtendedMantissa.ofMantissaAndAccuracy digits accuracy >>>
        (exponent - 1 - place).toNat).roundedMantissa = 2 ^ 53 := by
      refine described.roundedMantissa ((le_div_iff₀ positive).mpr ?_)
        ((div_le_iff₀ positive).mpr ?_) (fun odd => absurd odd (by decide)) <;> push_cast <;>
        linarith
    have least : -1074 ≤ exponent - 1 := by omega
    have next : exponent - 1 + 1 = exponent := by omega
    rw [rounded, shiftToTargetExponent_of_carry least, next]
    rfl

end Rounding

/-- The rest of a division tells on which side of the half the fraction lies. -/
theorem describes_fraction (dividend : Nat) {divisor : Nat} (positive : 0 < divisor) :
    Describes (.ofMantissaAndAccuracy (dividend / divisor)
      (UnpackedFloat.accuracyOfFraction (dividend % divisor) divisor)) (dividend / divisor) := by
  have some : (0 : Rat) < divisor := by exact_mod_cast positive
  have parts : (dividend : Rat) =
      divisor * (dividend / divisor : Nat) + (dividend % divisor : Nat) := by
    exact_mod_cast (Nat.div_add_mod dividend divisor).symm
  have less : ((dividend % divisor : Nat) : Rat) < divisor := by
    exact_mod_cast Nat.mod_lt dividend positive
  unfold UnpackedFloat.accuracyOfFraction
  generalize dividend / divisor = whole at parts ⊢
  generalize dividend % divisor = rest at parts less ⊢
  split
  next zero =>
    show (dividend : Rat) / divisor = whole
    rw [div_eq_iff some.ne', parts, zero, Nat.cast_zero, add_zero, mul_comm]
  next nonzero =>
    have nonzero : (0 : Rat) < rest := by exact_mod_cast Nat.pos_of_ne_zero nonzero
    cases order : compare (2 * rest) divisor with
    | lt =>
      have side : 2 * (rest : Rat) < divisor := by exact_mod_cast Nat.compare_eq_lt.mp order
      refine ⟨(lt_div_iff₀ some).mpr ?_, (div_lt_iff₀ some).mpr ?_⟩
      · show (whole : Rat) * divisor < dividend
        linarith
      · show (dividend : Rat) < (whole + 1 / 2) * divisor
        linarith
    | eq =>
      have side : 2 * (rest : Rat) = divisor := by exact_mod_cast Nat.compare_eq_eq.mp order
      show (dividend : Rat) / divisor = whole + 1 / 2
      rw [div_eq_iff some.ne']
      linarith
    | gt =>
      have side : (divisor : Rat) < 2 * rest := by exact_mod_cast Nat.compare_eq_gt.mp order
      refine ⟨(lt_div_iff₀ some).mpr ?_, (div_lt_iff₀ some).mpr ?_⟩
      · show ((whole : Rat) + 1 / 2) * divisor < dividend
        linarith
      · show (dividend : Rat) < (whole + 1) * divisor
        linarith

section Operations

variable {number : Rat} {mantissa : Nat} {exponent : Int} {first second : Nat} {place place' : Int}
  {some : 0 < first} {some' : 0 < second}

theorem mul_eq (rounds : RoundsTo number mantissa exponent)
    (value : (first : Rat) * (2 : Rat) ^ place * (second * (2 : Rat) ^ place') = number)
    (enough : 2 ^ 52 ≤ first * second) :
    UnpackedFloat.mul .binary64 (.finite .positive first place some)
        (.finite .positive second place' some') =
      .finite .positive mantissa exponent rounds.positive := by
  refine roundWithAccuracy_eq rounds ?_ (.inr enough) .positive
  show number / (2 : Rat) ^ (place + place') = (first * second : Nat)
  rw [div_eq_iff (zpow_two_pos _).ne', ← value, zpow_add₀ (by norm_num)]
  push_cast
  ring

theorem div_eq (rounds : RoundsTo number mantissa exponent)
    (value : (first : Rat) * (2 : Rat) ^ place / (second * (2 : Rat) ^ place') = number) :
    UnpackedFloat.div .binary64 (.finite .positive first place some)
        (.finite .positive second place' some') =
      .finite .positive mantissa exponent rounds.positive := by
  unfold UnpackedFloat.div UnpackedFloat.divCore
  dsimp only
  generalize goal : min (place - place') (Format.binary64.targetExponent
    (totalExponent first place - totalExponent second place')) = target
  have shift : place - place' = target + ((place - place' - target).toNat : Nat) := by omega
  generalize (place - place' - target).toNat = places at shift ⊢
  refine roundWithAccuracy_eq rounds ?_ ?_ .positive
  · have split : (2 : Rat) ^ place =
        (2 : Rat) ^ places * (2 : Rat) ^ target * (2 : Rat) ^ place' := by
      rw [← zpow_two_add, ← zpow_add₀ (by norm_num)]
      congr 1
      omega
    have quotient : number / (2 : Rat) ^ target = ((first <<< places : Nat) : Rat) / second := by
      have positive := (zpow_two_pos target).ne'
      have positive' := (zpow_two_pos place').ne'
      rw [← value, split, Nat.shiftLeft_eq]
      push_cast
      field_simp
    rw [quotient]
    exact describes_fraction _ some'
  · have top : target ≤ Format.binary64.targetExponent
        (totalExponent first place - totalExponent second place') := by omega
    change target ≤
      max (((first.log2 : Int) + 1 + place) - ((second.log2 : Int) + 1 + place') - 53) (-1074) at top
    by_cases low : target ≤ -1074
    · exact .inl low
    · have long : 52 + (second.log2 + 1) ≤ first.log2 + places := by omega
      refine .inr ((Nat.le_div_iff_mul_le some').mpr ?_)
      calc 2 ^ 52 * second
          ≤ 2 ^ 52 * 2 ^ (second.log2 + 1) := Nat.mul_le_mul_left _ Nat.lt_log2_self.le
        _ = 2 ^ (52 + (second.log2 + 1)) := (Nat.pow_add 2 52 _).symm
        _ ≤ 2 ^ (first.log2 + places) := Nat.pow_le_pow_right (by decide) long
        _ = 2 ^ first.log2 * 2 ^ places := Nat.pow_add 2 _ _
        _ ≤ first * 2 ^ places := Nat.mul_le_mul_right _ (Nat.log2_self_le some.ne')
        _ = first <<< places := (Nat.shiftLeft_eq first places).symm

end Operations

end HomeVoice.Decimal
