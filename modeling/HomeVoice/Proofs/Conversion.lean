import Mathlib.Algebra.Order.Field.Basic
import Mathlib.Tactic.Linarith
import HomeVoice.Conversion
import HomeVoice.Grammar.Options
import HomeVoice.Proofs.Decimal.Order

/-!
# Which values of the scale a range takes

Laid on a range, the values of the scale go from one bound to the other, and rounding keeps their
order. So if the two bounds stay in the range when they are rounded, everything between them does.
The lists of values that a grammar admits reach both bounds. So if one bound does not stay in the
range, every such list has a value that the range refuses.
-/

namespace HomeVoice

namespace Arithmetic

section Rounding

variable {x y : Rat}

theorem roundRational_mono (le : x ≤ y) : roundRational x ≤ roundRational y := by
  have zero : ((0 : Int) : Rat) = 0 := rfl
  unfold roundRational
  by_cases left : x < 0 <;> by_cases right : y < 0
  · rw [if_pos left, if_pos right]
    have upper : y - 1 / 2 ≤ ((y - 1 / 2).ceil : Int) := Rat.le_ceil
    have : (x - 1 / 2).ceil ≤ (y - 1 / 2).ceil := Rat.ceil_le_iff.mpr (by linarith)
    exact_mod_cast this
  · rw [if_pos left, if_neg right]
    have low : (x - 1 / 2).ceil ≤ 0 := Rat.ceil_le_iff.mpr (by rw [zero]; linarith)
    have high : 0 ≤ (y + 1 / 2).floor := Rat.le_floor_iff.mpr (by rw [zero]; linarith)
    exact_mod_cast low.trans high
  · exact absurd (lt_of_le_of_lt le right) left
  · rw [if_neg left, if_neg right]
    exact_mod_cast Rat.floor_monotone (by linarith : x + 1 / 2 ≤ y + 1 / 2)

theorem roundRational_intCast (k : Int) : roundRational k = k := by
  unfold roundRational
  split
  · have ceiling : ((k : Rat) - 1 / 2).ceil = k := by
      have high : ((k : Rat) - 1 / 2).ceil ≤ k := Rat.ceil_le_iff.mpr (by linarith)
      have low : k - 1 < ((k : Rat) - 1 / 2).ceil :=
        Rat.lt_ceil_iff.mpr (by push_cast; linarith)
      omega
    rw [ceiling]
  · have floor : ((k : Rat) + 1 / 2).floor = k := by
      have low : k ≤ ((k : Rat) + 1 / 2).floor := Rat.le_floor_iff.mpr (by linarith)
      have high : ((k : Rat) + 1 / 2).floor < k + 1 :=
        Rat.floor_lt_iff.mpr (by push_cast; linarith)
      omega
    rw [floor]

theorem roundRational_natCast (n : Nat) : roundRational n = n := by
  rw [← Int.cast_natCast, roundRational_intCast]

variable (decimals : Nat)

theorem factor_pos : (0 : Rat) < (Nat.pow 10 decimals : Nat) := by
  exact_mod_cast Nat.pow_pos (by decide : 0 < 10)

theorem roundTo_mono (le : x ≤ y) : exact.roundTo decimals x ≤ exact.roundTo decimals y := by
  have positive := factor_pos decimals
  exact div_le_div_of_nonneg_right
    (roundRational_mono (mul_le_mul_of_nonneg_right le positive.le)) positive.le

/-- A whole number has no decimals to lose. -/
theorem roundTo_natCast (n : Nat) : exact.roundTo decimals n = n := by
  have positive := factor_pos decimals
  show roundRational ((n : Rat) * (Nat.pow 10 decimals : Nat)) / (Nat.pow 10 decimals : Nat) = n
  rw [← Nat.cast_mul, roundRational_natCast, Nat.cast_mul]
  exact mul_div_cancel_right₀ _ positive.ne'

end Rounding

section Laying

/-! Values of the scale, laid on a range of rational numbers. -/

/-- How far up the scale a value is, from zero to one. -/
def progress (n : Nat) : Rat := (max (n : Rat) 1 - 1) / 99

theorem progress_nonneg (n : Nat) : 0 ≤ progress n :=
  div_nonneg (sub_nonneg.mpr (le_max_right _ _)) (by norm_num)

theorem progress_le_one {n : Nat} (small : n ≤ scaleLast) : progress n ≤ 1 := by
  have small : (n : Rat) ≤ 100 := by exact_mod_cast small
  unfold progress
  rw [div_le_one (by norm_num)]
  linarith [max_le small (by norm_num : (1 : Rat) ≤ 100)]

theorem progress_first {n : Nat} (first : n ≤ scaleFirst) : progress n = 0 := by
  have first : (n : Rat) ≤ 1 := by exact_mod_cast first
  unfold progress
  rw [max_eq_right first, sub_self, zero_div]

theorem progress_last : progress scaleLast = 1 := by
  norm_num [progress, scaleLast]

/-- The range is the scale itself. -/
def IsScale (low high : Rat) : Prop := low = 0 ∧ high = scaleLast

variable {low high : Rat} {n : Nat}

theorem native_of_isScale (scale : IsScale low high) : exact.native low high n = n := by
  obtain ⟨rfl, rfl⟩ := scale
  rfl

/-- On any other range a value is laid on the line between the bounds. -/
theorem native_eq_of_not_isScale (other : ¬ IsScale low high) (value : Rat) :
    exact.native low high value = low + (max value 1 - 1) / 99 * (high - low) := by
  have apart : ¬ (exact.same low (exact.ofNat 0) && exact.same high (exact.ofNat scaleLast)) =
      true := fun same => other (by simpa [exact, IsScale] using same)
  have clamped : (if exact.lt 1 value then value else 1) = max value 1 := by
    by_cases above : 1 < value
    · have decided : exact.lt 1 value = true := decide_eq_true above
      rw [if_pos decided, max_eq_left above.le]
    · rw [if_neg (by simpa [exact] using above), max_eq_right (not_lt.mp above)]
  have first : exact.ofNat scaleFirst = 1 := Nat.cast_one
  have width : exact.sub (exact.ofNat scaleLast) 1 = 99 := by norm_num [exact, scaleLast]
  unfold native
  dsimp only
  rw [if_neg apart, first, width, clamped]
  exact congrArg (low + ·) (mul_div_right_comm (max value 1 - 1) (high - low) 99)

theorem native_of_not_isScale (other : ¬ IsScale low high) :
    exact.native low high n = low + progress n * (high - low) :=
  native_eq_of_not_isScale other n

theorem native_first (other : ¬ IsScale low high) (first : n ≤ scaleFirst) :
    exact.native low high n = low := by
  rw [native_of_not_isScale other, progress_first first, zero_mul, add_zero]

theorem native_last : exact.native low high scaleLast = high := by
  by_cases scale : IsScale low high
  · rw [native_of_isScale scale, scale.2]
  · rw [native_of_not_isScale scale, progress_last]
    ring

theorem low_le_native (ordered : low < high) : low ≤ exact.native low high n := by
  by_cases scale : IsScale low high
  · rw [native_of_isScale scale, scale.1]
    exact Nat.cast_nonneg n
  · rw [native_of_not_isScale scale]
    have offset : 0 ≤ progress n * (high - low) :=
      mul_nonneg (progress_nonneg n) (sub_nonneg.mpr ordered.le)
    linarith

theorem native_le_high (ordered : low < high) (small : n ≤ scaleLast) :
    exact.native low high n ≤ high := by
  by_cases scale : IsScale low high
  · rw [native_of_isScale scale, scale.2]
    exact_mod_cast small
  · rw [native_of_not_isScale scale]
    have offset : progress n * (high - low) ≤ 1 * (high - low) :=
      mul_le_mul_of_nonneg_right (progress_le_one small) (sub_nonneg.mpr ordered.le)
    linarith

end Laying

section Bounds

/-! Rounded to the decimals of a unit, a bound may come to lie outside the range. -/

/-- Both bounds stay in the range when they are rounded. -/
def KeepsBounds (decimals : Nat) (low high : Rat) : Prop :=
  low ≤ exact.roundTo decimals low ∧ exact.roundTo decimals high ≤ high

/-- The native value for a value of the scale lies in the range. -/
def Takes (decimals : Nat) (low high : Rat) (n : Nat) : Prop :=
  low ≤ exact.target low high decimals n ∧ exact.target low high decimals n ≤ high

variable {decimals : Nat} {low high : Rat}

theorem KeepsBounds.takes (kept : KeepsBounds decimals low high) (ordered : low < high) {n : Nat}
    (small : n ≤ scaleLast) : Takes decimals low high n :=
  ⟨kept.1.trans (roundTo_mono decimals (low_le_native ordered)),
    (roundTo_mono decimals (native_le_high ordered small)).trans kept.2⟩

/-- A range that takes the least and the greatest value of the scale keeps its bounds. -/
theorem keepsBounds_of_takes {n : Nat} (first : n ≤ scaleFirst) (least : Takes decimals low high n)
    (greatest : Takes decimals low high scaleLast) : KeepsBounds decimals low high := by
  have least := least.1
  have greatest := greatest.2
  unfold target at least greatest
  rw [native_last] at greatest
  refine ⟨?_, greatest⟩
  by_cases scale : IsScale low high
  · rw [scale.1]
    exact (roundTo_natCast decimals 0).ge
  · rwa [native_first scale first] at least

/-- A range takes all values that a grammar lists if and only if it keeps its bounds. -/
theorem takes_values_iff (ordered : low < high) (options : GrammarOptions) (kind : ValueKind) :
    (∀ n ∈ options.values kind, Takes decimals low high n) ↔ KeepsBounds decimals low high := by
  constructor
  · intro all
    have first : GrammarOptions.firstValue kind ≤ scaleFirst := by cases kind <;> decide
    exact keepsBounds_of_takes first (all _ (GrammarOptions.mem_values_iff.mpr (.inl rfl)))
      (all _ (GrammarOptions.mem_values_iff.mpr (.inr (.inr rfl))))
  · intro kept n listed
    exact kept.takes ordered (GrammarOptions.le_lastValue_of_mem_values listed)

end Bounds

end Arithmetic

namespace ValueRange

open Decimal (exactValue)

variable {range : ValueRange} {n : Nat}

/-- The exact values of both bounds stay in the range when they are rounded. -/
def KeepsBounds (range : ValueRange) : Prop :=
  Arithmetic.KeepsBounds range.unit.decimals (exactValue range.min) (exactValue range.max)

instance (range : ValueRange) : Decidable range.KeepsBounds := inferInstanceAs (Decidable (_ ∧ _))

theorem keepsBounds_hundredPercent : hundredPercent.KeepsBounds := by decide +kernel

theorem exactValue_min_lt_max (range : ValueRange) : exactValue range.min < exactValue range.max :=
  have finite := Bool.and_eq_true_iff.mp range.bounded
  Decimal.exactValue_lt finite.1 finite.2 range.ordered

theorem isSome_convertExactly_iff :
    (range.convertExactly n).isSome ↔
      Arithmetic.Takes range.unit.decimals (exactValue range.min) (exactValue range.max) n := by
  unfold convertExactly Arithmetic.Takes
  dsimp only
  split <;> simp_all

theorem KeepsBounds.isSome_convertExactly (kept : range.KeepsBounds)
    (small : n ≤ Arithmetic.scaleLast) : (range.convertExactly n).isSome :=
  have takes := Arithmetic.KeepsBounds.takes kept range.exactValue_min_lt_max small
  isSome_convertExactly_iff.mpr takes

theorem convertExactly_values_iff (range : ValueRange) (options : GrammarOptions)
    (kind : ValueKind) :
    (∀ n ∈ options.values kind, (range.convertExactly n).isSome) ↔ range.KeepsBounds := by
  simp only [isSome_convertExactly_iff]
  exact Arithmetic.takes_values_iff range.exactValue_min_lt_max options kind

end ValueRange

end HomeVoice
