import HomeVoice.Device
import HomeVoice.Error

/-!
# From the scale of commands to native values

Commands speak of values from 1 to 100. A range from 0 to 100 takes them as they are; on any other
range 1 is laid on the lower bound and 100 on the upper one, with a straight line between. The
result is rounded to the decimals of the unit and must lie in the range. The rule is written once
for any kind of numbers: binary64 numbers are what the program computes with, rational numbers are
what the rule means.
-/

namespace HomeVoice

/-- The operations on numbers that the conversion needs. -/
structure Arithmetic (ν : Type) where
  ofNat : Nat → ν
  add : ν → ν → ν
  sub : ν → ν → ν
  mul : ν → ν → ν
  div : ν → ν → ν
  lt : ν → ν → Bool
  same : ν → ν → Bool
  /-- The nearest whole number, halves away from zero. -/
  round : ν → ν

namespace Arithmetic

/-- Binary64 numbers. -/
def binary : Arithmetic Float where
  ofNat := Float.ofNat
  add := (· + ·)
  sub := (· - ·)
  mul := (· * ·)
  div := (· / ·)
  lt x y := decide (x < y)
  same := Float.beq
  round := Decimal.roundHalfAway

/-- The nearest whole number to a rational number, halves away from zero. -/
def roundRational (x : Rat) : Rat :=
  if x < 0 then ((x - 1 / 2).ceil : Int) else ((x + 1 / 2).floor : Int)

/-- Rational numbers. -/
def exact : Arithmetic Rat where
  ofNat n := n
  add := (· + ·)
  sub := (· - ·)
  mul := (· * ·)
  div := (· / ·)
  lt x y := x < y
  same x y := x = y
  round := roundRational

variable {ν : Type} (numbers : Arithmetic ν)

/-- The first and the last value of the scale. -/
def scaleFirst : Nat := 1

def scaleLast : Nat := 100

/-- The point of a range that a value of the scale means. Values below the scale mean its first
value. -/
def native (min max value : ν) : ν :=
  let first := numbers.ofNat scaleFirst
  if numbers.same min (numbers.ofNat 0) && numbers.same max (numbers.ofNat scaleLast) then value
  else
    let value := if numbers.lt first value then value else first
    numbers.add min
      (numbers.div (numbers.mul (numbers.sub value first) (numbers.sub max min))
        (numbers.sub (numbers.ofNat scaleLast) first))

/-- A number rounded to so many decimals. -/
def roundTo (decimals : Nat) (value : ν) : ν :=
  let factor := numbers.ofNat (Nat.pow 10 decimals)
  numbers.div (numbers.round (numbers.mul value factor)) factor

/-- The native value for a value of the scale. -/
def target (min max : ν) (decimals : Nat) (value : ν) : ν :=
  numbers.roundTo decimals (numbers.native min max value)

end Arithmetic

namespace ValueRange

/-- The native value for a value of the scale, which must lie in the range. -/
def convert (range : ValueRange) (value : Float) : Except SemanticError Float :=
  let target := Arithmetic.binary.target range.min range.max range.unit.decimals value
  if range.contains target then .ok target
  else .error (.valueOutOfRange target range.min range.max)

/-- The same over rational numbers, for the exact values of the bounds; none outside the range. -/
def convertExactly (range : ValueRange) (value : Rat) : Option Rat :=
  let min := Decimal.exactValue range.min
  let max := Decimal.exactValue range.max
  let target := Arithmetic.exact.target min max range.unit.decimals value
  if min ≤ target ∧ target ≤ max then some target else none

end ValueRange

end HomeVoice
