import HomeVoice.Action

/-!
# The values that a grammar admits

A grammar lists the values that may be spoken, as far apart as its options say. Percentages start
at zero. Temperatures are points on a scale from 1 to 100, not degrees: every device lays that
scale over its own range. Both lists end at a hundred.
-/

namespace HomeVoice

/-- How far apart the values are. -/
structure GrammarOptions where
  percentStep : UInt32 := 10
  temperatureStep : UInt32 := 1
  deriving DecidableEq, Repr, Inhabited

namespace GrammarOptions

/-- The least value of a kind. -/
def firstValue : ValueKind → Nat
  | .percent => 0
  | .temperature => 1

/-- The greatest value of either kind. -/
def lastValue : Nat := 100

/-- The distance of neighbouring values of a kind; a step of zero counts as one. -/
def step (options : GrammarOptions) (kind : ValueKind) : Nat :=
  max 1 (match kind with
    | .percent => options.percentStep.toNat
    | .temperature => options.temperatureStep.toNat)

/-- The values of a kind in ascending order: the least, the multiples of the step above it and
below the greatest, and the greatest. -/
def values (options : GrammarOptions) (kind : ValueKind) : List Nat :=
  firstValue kind ::
    (List.range lastValue).filter (fun value =>
      firstValue kind < value && value % options.step kind = 0) ++ [lastValue]

section Values

variable {options : GrammarOptions} {kind : ValueKind}

theorem firstValue_lt_lastValue (kind : ValueKind) : firstValue kind < lastValue := by
  cases kind <;> decide

/-- The values are the first, the larger multiples of the step below the last, and the last. -/
theorem mem_values_iff {value : Nat} :
    value ∈ options.values kind ↔
      value = firstValue kind ∨
        (firstValue kind < value ∧ value < lastValue ∧ options.step kind ∣ value) ∨
        value = lastValue := by
  simp only [values, List.mem_append, List.mem_cons, List.mem_filter, List.mem_range,
    List.not_mem_nil, or_false, Bool.and_eq_true, decide_eq_true_eq, Nat.dvd_iff_mod_eq_zero]
  grind

theorem le_lastValue_of_mem_values {value : Nat} (listed : value ∈ options.values kind) :
    value ≤ lastValue := by
  have := firstValue_lt_lastValue kind
  rcases mem_values_iff.mp listed with first | ⟨_, below, _⟩ | last <;> omega

/-- The values ascend. -/
theorem pairwise_values (options : GrammarOptions) (kind : ValueKind) :
    (options.values kind).Pairwise (· < ·) := by
  unfold values
  refine List.pairwise_append.mpr ⟨List.pairwise_cons.mpr ⟨?_, ?_⟩, List.pairwise_singleton .., ?_⟩
  · intro value member
    simpa using (Bool.and_eq_true_iff.mp (List.mem_filter.mp member).2).1
  · exact List.pairwise_lt_range.filter _
  · intro value member last here
    rw [List.mem_singleton.mp here]
    rcases List.mem_cons.mp member with rfl | later
    · exact firstValue_lt_lastValue kind
    · exact List.mem_range.mp (List.mem_filter.mp later).1

end Values

example : ({ percentStep := 30 } : GrammarOptions).values .percent = [0, 30, 60, 90, 100] := by
  decide
example : ({ temperatureStep := 25 } : GrammarOptions).values .temperature =
    [1, 25, 50, 75, 100] := by decide
example : ({ percentStep := 4000000000 } : GrammarOptions).values .percent = [0, 100] := by decide

end GrammarOptions

end HomeVoice
