import HomeVoice.Proofs.Conversion

/-!
# The conversion keeps the order of values

The line from the scale to a range goes up, and rounding keeps the order of what it rounds. So the
values that a range takes have no gap between them, and whether it takes the whole scale is seen at
its two ends. A bound is met exactly if there is nothing to round in it.
-/

namespace HomeVoice

namespace Arithmetic

section Steps

variable {decimals : Nat} {x : Rat}

/-- A whole number of the steps to which numbers with so many decimals are rounded. -/
def IsMultipleOfStep (decimals : Nat) (x : Rat) : Prop :=
  ∃ k : Int, x = k * (1 / (Nat.pow 10 decimals : Nat))

theorem isMultipleOfStep_roundTo (decimals : Nat) (x : Rat) :
    IsMultipleOfStep decimals (exact.roundTo decimals x) := by
  have whole (y : Rat) : ∃ k : Int, roundRational y = k := by
    unfold roundRational
    split
    · exact ⟨_, rfl⟩
    · exact ⟨_, rfl⟩
  obtain ⟨k, rounded⟩ := whole (x * (Nat.pow 10 decimals : Nat))
  refine ⟨k, ?_⟩
  rw [mul_one_div, ← rounded]
  rfl

theorem roundTo_of_isMultipleOfStep (multiple : IsMultipleOfStep decimals x) :
    exact.roundTo decimals x = x := by
  obtain ⟨k, rfl⟩ := multiple
  have positive : (0 : Rat) < (Nat.pow 10 decimals : Nat) := factor_pos decimals
  have scaled : (k : Rat) * (1 / (Nat.pow 10 decimals : Nat)) * (Nat.pow 10 decimals : Nat) = k := by
    rw [mul_one_div]
    exact div_mul_cancel₀ _ positive.ne'
  show roundRational (k * (1 / (Nat.pow 10 decimals : Nat)) * (Nat.pow 10 decimals : Nat)) /
    (Nat.pow 10 decimals : Nat) = _
  rw [scaled, roundRational_intCast, mul_one_div]

/-- Rounding leaves the whole steps alone and nothing else. -/
theorem roundTo_eq_self_iff : exact.roundTo decimals x = x ↔ IsMultipleOfStep decimals x := by
  refine ⟨fun same => ?_, roundTo_of_isMultipleOfStep⟩
  rw [← same]
  exact isMultipleOfStep_roundTo decimals x

end Steps

section Order

variable {low high v w : Rat} (decimals : Nat)

theorem native_mono (ordered : low < high) (le : v ≤ w) :
    exact.native low high v ≤ exact.native low high w := by
  by_cases scale : IsScale low high
  · obtain ⟨rfl, rfl⟩ := scale
    exact le
  · rw [native_eq_of_not_isScale scale, native_eq_of_not_isScale scale]
    have further : (max v 1 - 1) / 99 ≤ (max w 1 - 1) / 99 :=
      div_le_div_of_nonneg_right (sub_le_sub_right (max_le_max_right 1 le) 1) (by norm_num)
    have offset := mul_le_mul_of_nonneg_right further (sub_nonneg.mpr ordered.le)
    linarith

theorem target_mono (ordered : low < high) (le : v ≤ w) :
    exact.target low high decimals v ≤ exact.target low high decimals w :=
  roundTo_mono decimals (native_mono ordered le)

/-- Values below the scale mean its first value. -/
theorem target_of_lt_one (other : ¬ IsScale low high) (below : v < 1) :
    exact.target low high decimals v = exact.target low high decimals 1 := by
  unfold target
  rw [native_eq_of_not_isScale other, native_eq_of_not_isScale other, max_eq_right below.le,
    max_self]

theorem target_one (other : ¬ IsScale low high) :
    exact.target low high decimals 1 = exact.roundTo decimals low := by
  unfold target
  rw [native_eq_of_not_isScale other, max_self, sub_self, zero_div, zero_mul, add_zero]

theorem target_hundred : exact.target low high decimals 100 = exact.roundTo decimals high :=
  congrArg (exact.roundTo decimals) native_last

end Order

end Arithmetic

namespace ValueRange

open Arithmetic (IsMultipleOfStep IsScale exact)
open Decimal (exactValue)

variable {range : ValueRange} {u v w x y : Rat}

theorem isZeroToHundred_iff :
    range.isZeroToHundred = true ↔ IsScale (exactValue range.min) (exactValue range.max) := by
  have finite := Bool.and_eq_true_iff.mp range.bounded
  have zero : Decimal.isFinite 0 = true ∧ exactValue 0 = 0 := by decide +kernel
  have hundred : Decimal.isFinite 100 = true ∧ exactValue 100 = (Arithmetic.scaleLast : Nat) := by
    decide +kernel
  unfold isZeroToHundred IsScale
  rw [Bool.and_eq_true, Decimal.beq_iff_exactValue_eq finite.1 zero.1,
    Decimal.beq_iff_exactValue_eq finite.2 hundred.1, zero.2, hundred.2]

/-- What the exact rule makes of a value before it is known whether that lies in the range. -/
def exactTarget (range : ValueRange) (value : Rat) : Rat :=
  exact.target (exactValue range.min) (exactValue range.max) range.unit.decimals value

theorem convertExactly_eq_some_iff :
    range.convertExactly v = some x ↔
      (exactValue range.min ≤ x ∧ x ≤ exactValue range.max) ∧ range.exactTarget v = x := by
  unfold convertExactly exactTarget
  dsimp only
  split
  next inside =>
    rw [Option.some.injEq]
    refine ⟨?_, And.right⟩
    rintro rfl
    exact ⟨inside, rfl⟩
  next outside =>
    refine iff_of_false nofun ?_
    rintro ⟨inside, rfl⟩
    exact outside inside

theorem isSome_convertExactly_iff_exactTarget :
    (range.convertExactly v).isSome ↔
      exactValue range.min ≤ range.exactTarget v ∧ range.exactTarget v ≤ exactValue range.max := by
  rw [Option.isSome_iff_exists]
  simp only [convertExactly_eq_some_iff, exists_eq_right']

theorem exactTarget_mono (le : v ≤ w) : range.exactTarget v ≤ range.exactTarget w :=
  Arithmetic.target_mono _ range.exactValue_min_lt_max le

/-- No value is refused between two that are taken. -/
theorem isSome_convertExactly_of_between (le : v ≤ u) (le' : u ≤ w)
    (low : (range.convertExactly v).isSome) (high : (range.convertExactly w).isSome) :
    (range.convertExactly u).isSome := by
  rw [isSome_convertExactly_iff_exactTarget] at low high ⊢
  exact ⟨low.1.trans (exactTarget_mono le), (exactTarget_mono le').trans high.2⟩

section NotScale

variable (other : ¬ IsScale (exactValue range.min) (exactValue range.max))

include other

theorem convertExactly_one_eq_min_iff :
    range.convertExactly 1 = some (exactValue range.min) ↔
      IsMultipleOfStep range.unit.decimals (exactValue range.min) := by
  have inside : exactValue range.min ≤ exactValue range.min ∧
      exactValue range.min ≤ exactValue range.max := ⟨le_rfl, range.exactValue_min_lt_max.le⟩
  rw [convertExactly_eq_some_iff, and_iff_right inside, exactTarget, Arithmetic.target_one _ other,
    Arithmetic.roundTo_eq_self_iff]

theorem convertExactly_of_lt_one (below : v < 1) :
    range.convertExactly v = range.convertExactly 1 := by
  unfold convertExactly
  dsimp only
  rw [Arithmetic.target_of_lt_one _ other below]

/-- The whole scale is taken if and only if its two ends are. -/
theorem forall_isSome_convertExactly_iff :
    (∀ v, 1 ≤ v → v ≤ 100 → (range.convertExactly v).isSome) ↔ range.KeepsBounds := by
  have first : range.exactTarget 1 = exact.roundTo range.unit.decimals (exactValue range.min) :=
    Arithmetic.target_one _ other
  have last : range.exactTarget 100 = exact.roundTo range.unit.decimals (exactValue range.max) :=
    Arithmetic.target_hundred _
  constructor
  · intro all
    have least := isSome_convertExactly_iff_exactTarget.mp (all 1 le_rfl (by norm_num))
    have greatest := isSome_convertExactly_iff_exactTarget.mp (all 100 (by norm_num) le_rfl)
    rw [first] at least
    rw [last] at greatest
    exact ⟨least.1, greatest.2⟩
  · rintro ⟨keepsMin, keepsMax⟩ v above below
    rw [isSome_convertExactly_iff_exactTarget]
    rw [← first] at keepsMin
    rw [← last] at keepsMax
    exact ⟨keepsMin.trans (exactTarget_mono above), (exactTarget_mono below).trans keepsMax⟩

end NotScale

theorem convertExactly_hundred_eq_max_iff :
    range.convertExactly 100 = some (exactValue range.max) ↔
      IsMultipleOfStep range.unit.decimals (exactValue range.max) := by
  have inside : exactValue range.min ≤ exactValue range.max ∧
      exactValue range.max ≤ exactValue range.max := ⟨range.exactValue_min_lt_max.le, le_rfl⟩
  rw [convertExactly_eq_some_iff, and_iff_right inside, exactTarget, Arithmetic.target_hundred,
    Arithmetic.roundTo_eq_self_iff]

/-- Where a range is the scale of commands itself, values are rounded and not moved. On any other range
the two ends of the scale tell which values it takes. -/
structure ConvertsInOrder (range : ValueRange) : Prop where
  mono : ∀ v w x y, v ≤ w → range.convertExactly v = some x → range.convertExactly w = some y →
    x ≤ y
  noGap : ∀ u v w, v ≤ u → u ≤ w → (range.convertExactly v).isSome →
    (range.convertExactly w).isSome → (range.convertExactly u).isSome
  wholeScale : range.isZeroToHundred = false →
    ((∀ v, 1 ≤ v → v ≤ 100 → (range.convertExactly v).isSome) ↔
      exactValue range.min ≤ exact.roundTo range.unit.decimals (exactValue range.min) ∧
        exact.roundTo range.unit.decimals (exactValue range.max) ≤ exactValue range.max)
  first : range.isZeroToHundred = false →
    (range.convertExactly 1 = some (exactValue range.min) ↔
      IsMultipleOfStep range.unit.decimals (exactValue range.min))
  last : range.convertExactly 100 = some (exactValue range.max) ↔
    IsMultipleOfStep range.unit.decimals (exactValue range.max)
  belowScale : range.isZeroToHundred = false →
    ∀ v < 1, range.convertExactly v = range.convertExactly 1

/-- Every range keeps the order of values and has no gap in what it takes. -/
theorem convertsInOrder (range : ValueRange) : range.ConvertsInOrder := by
  have notScale (other : range.isZeroToHundred = false) :
      ¬ IsScale (exactValue range.min) (exactValue range.max) := by
    rw [← isZeroToHundred_iff, other]
    nofun
  constructor
  case mono =>
    intro v w x y le left right
    rw [← (convertExactly_eq_some_iff.mp left).2, ← (convertExactly_eq_some_iff.mp right).2]
    exact exactTarget_mono le
  case noGap =>
    intro u v w le le' low high
    exact isSome_convertExactly_of_between le le' low high
  case wholeScale => exact fun other => forall_isSome_convertExactly_iff (notScale other)
  case first => exact fun other => convertExactly_one_eq_min_iff (notScale other)
  case last => exact convertExactly_hundred_eq_max_iff
  case belowScale =>
    intro other v below
    exact convertExactly_of_lt_one (notScale other) below

end ValueRange

end HomeVoice
