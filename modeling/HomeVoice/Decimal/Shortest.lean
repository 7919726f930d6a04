import HomeVoice.Decimal.Binary

/-!
# The shortest decimal that reads back

A decimal reads back to a binary64 number when it lies among the reals that round to it, to
nearest and ties to even. Of all decimals that do, `shortest` takes one with the fewest digits
and, of those, the nearest; two that are equally near are told apart by a rule of the caller's.
-/

namespace HomeVoice.Decimal

/-- The number `digits * 10 ^ exponent`. -/
structure Scaled where
  digits : Nat
  exponent : Int
  deriving DecidableEq, Repr

/-- Which of two equally near decimals is taken. -/
inductive Tie where
  | toEven
  | upward
  deriving DecidableEq, Repr

/-- The decimal lies between the halfway points to the neighbouring numbers, which belong to the
interval exactly when the mantissa is even. -/
def Magnitude.readsBack (x : Magnitude) (decimal : Scaled) : Bool :=
  let low := if x.narrowBelow then 4 * x.mantissa - 1 else 4 * x.mantissa - 2
  let high := 4 * x.mantissa + 2
  let ends := x.mantissa % 2 == 0
  let aboveLow := compareScaled decimal.digits decimal.exponent low (x.exponent - 2)
  let belowHigh := compareScaled decimal.digits decimal.exponent high (x.exponent - 2)
  (aboveLow == .gt || (ends && aboveLow == .eq)) && (belowHigh == .lt || (ends && belowHigh == .eq))

/-- The least power of ten above a magnitude that is not zero, as an exponent. The estimate from
the binary logarithm is at most two too low. -/
def Magnitude.scale (x : Magnitude) : Int :=
  let estimate := (((x.mantissa.log2 : Int) + x.exponent) * 30103).fdiv 100000
  let above (tens : Int) : Bool := compareScaled 1 tens x.mantissa x.exponent == .gt
  if above estimate then estimate
  else if above (estimate + 1) then estimate + 1
  else estimate + 2

/-- The magnitude divided by `10 ^ tens`, rounded down. -/
def Magnitude.divideTens (x : Magnitude) (tens : Int) : Nat :=
  x.mantissa * Nat.pow 2 x.exponent.toNat * Nat.pow 10 (-tens).toNat /
    (Nat.pow 2 (-x.exponent).toNat * Nat.pow 10 tens.toNat)

/-- Of the two multiples of `10 ^ tens` next to the magnitude, the nearer one that reads back. -/
def Magnitude.onGrid (x : Magnitude) (tie : Tie) (tens : Int) : Option Scaled :=
  let below := x.divideTens tens
  let lower : Scaled := ⟨below, tens⟩
  let upper : Scaled := ⟨below + 1, tens⟩
  match x.readsBack lower, x.readsBack upper with
  | false, false => none
  | true, false => some lower
  | false, true => some upper
  | true, true =>
    match compareScaled (2 * below + 1) tens (2 * x.mantissa) x.exponent with
    | .gt => some lower
    | .lt => some upper
    | .eq => match tie with
      | .toEven => some (if below % 2 = 0 then lower else upper)
      | .upward => some upper

/-- Trailing zeros moved into the exponent; `limit` bounds their number. -/
def Scaled.strip (decimal : Scaled) : Nat → Scaled
  | 0 => decimal
  | limit + 1 =>
    if decimal.digits ≠ 0 ∧ decimal.digits % 10 = 0 then
      Scaled.strip ⟨decimal.digits / 10, decimal.exponent + 1⟩ limit
    else decimal

/-- The exact value as a decimal. -/
def Magnitude.exactDecimal (x : Magnitude) : Scaled :=
  ⟨x.mantissa * Nat.pow 2 x.exponent.toNat * Nat.pow 5 (-x.exponent).toNat,
    -((-x.exponent).toNat : Int)⟩

/-- The decimal with the fewest digits that reads back. Zero is `0 * 10 ^ 0`. Seventeen digits
are always enough; should none of the grids hit, the exact value is taken. -/
def Magnitude.shortest (x : Magnitude) (tie : Tie) : Scaled :=
  if x.mantissa = 0 then ⟨0, 0⟩
  else
    let scale := x.scale
    match (List.range 17).findSome? fun places => x.onGrid tie (scale - (places + 1 : Nat)) with
    | some decimal => decimal.strip 17
    | none => x.exactDecimal

example : (magnitude 0.1).shortest .upward = ⟨1, -1⟩ := by decide +kernel
example : (magnitude (0.1 + 0.2)).shortest .upward = ⟨30000000000000004, -17⟩ := by decide +kernel
example : (magnitude 1e23).shortest .upward = ⟨1, 23⟩ := by decide +kernel
example : (magnitude 5e-324).shortest .upward = ⟨5, -324⟩ := by decide +kernel
example : (magnitude 2.98023223876953125e-8).shortest .upward = ⟨29802322387695313, -24⟩ := by
  decide +kernel
example : (magnitude 2.98023223876953125e-8).shortest .toEven = ⟨29802322387695312, -24⟩ := by
  decide +kernel

end HomeVoice.Decimal
