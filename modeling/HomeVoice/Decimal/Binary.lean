/-!
# Binary64 numbers as exact values

A finite binary64 number is a sign and a magnitude `mantissa * 2 ^ exponent`, read off the bits.
Comparisons of such magnitudes with decimals are made by cross-multiplying natural numbers, so
nothing here rounds but `roundHalfAway`, which is meant to.
-/

namespace HomeVoice.Decimal

/-- The magnitude `mantissa * 2 ^ exponent` of a finite binary64 number. -/
structure Magnitude where
  mantissa : Nat
  exponent : Int
  /-- The gap to the number below is half the gap to the number above. -/
  narrowBelow : Bool
  deriving DecidableEq, Repr

/-- The sign bit is set; the negative zero is negative. -/
def isNegative (x : Float) : Bool := x.toBits >>> 63 == 1

/-- The eleven bits of the exponent. -/
def exponentBits (x : Float) : Nat := ((x.toBits >>> 52) &&& 0x7FF).toNat

/-- The fifty-two bits of the fraction. -/
def fractionBits (x : Float) : Nat := (x.toBits &&& 0xFFFFFFFFFFFFF).toNat

/-- Neither an infinity nor not a number. -/
def isFinite (x : Float) : Bool := exponentBits x != 0x7FF

/-- The magnitude of a finite number. -/
def magnitude (x : Float) : Magnitude :=
  if exponentBits x = 0 then ⟨fractionBits x, -1074, false⟩
  else
    { mantissa := 0x10000000000000 + fractionBits x
      exponent := exponentBits x - 1075
      narrowBelow := fractionBits x = 0 ∧ 1 < exponentBits x }

/-- `left * 10 ^ leftTens` against `right * 2 ^ rightTwos`, exactly. -/
def compareScaled (left : Nat) (leftTens : Int) (right : Nat) (rightTwos : Int) : Ordering :=
  compare (left * Nat.pow 10 leftTens.toNat * Nat.pow 2 (-rightTwos).toNat)
    (right * Nat.pow 2 rightTwos.toNat * Nat.pow 10 (-leftTens).toNat)

/-- The nearest whole number, halves away from zero, keeping the sign of a zero. Infinities and
not-a-number stay what they are. -/
def roundHalfAway (x : Float) : Float :=
  if isFinite x && (magnitude x).exponent < 0 then
    let unit := Nat.pow 2 (-(magnitude x).exponent).toNat
    let whole := (2 * (magnitude x).mantissa + unit) / (2 * unit)
    if isNegative x then -(Float.ofNat whole) else Float.ofNat whole
  else x

/-- The exact value of a finite number. -/
def exactValue (x : Float) : Rat :=
  let size : Rat := (magnitude x).mantissa * (2 : Rat) ^ (magnitude x).exponent
  if isNegative x then -size else size

example : (magnitude 1.5).mantissa = 3 * 2 ^ 51 ∧ (magnitude 1.5).exponent = -52 := by decide
example : exactValue (-0.375) = -3 / 8 := by decide +kernel
example : [2.5, -2.5, 0.49999999999999994, 1e300].map roundHalfAway = [3, -3, 0, 1e300] := by
  decide +kernel
example : (roundHalfAway (-0.4)).toBits = (-0.0 : Float).toBits := by decide +kernel

end HomeVoice.Decimal
