import HomeVoice.Decimal.Shortest

/-!
# Two ways to write a binary64 number

Messages and the values of spoken commands write a number without an exponent and whole numbers
without a point. Documents write a point in every number and switch to an exponent for the very
small and the very large. Both use the shortest digits that read back and keep the sign of a zero.
-/

namespace HomeVoice.Decimal

/-- What a written form decides beyond the digits. -/
structure Layout where
  /-- Exponents of the leading digit that are written without an exponent; all, if none is given. -/
  plain : Option (Int × Int)
  /-- Whole numbers end in a point and a zero. -/
  pointZero : Bool
  tie : Tie

/-- Numbers in messages and in the values of commands. -/
def messageLayout : Layout := ⟨none, false, .upward⟩

/-- Numbers in documents: without an exponent from `1e-5` up to below `1e16`. -/
def documentLayout : Layout := ⟨some (-5, 15), true, .toEven⟩

/-- The digits of a natural number. -/
def digitsOf (n : Nat) : List Char := Nat.toDigits 10 n

/-- Digits with the point in front of the last `places` of them. -/
def pointed (digits : List Char) (places : Nat) : List Char :=
  let padded := List.replicate (places + 1 - digits.length) '0' ++ digits
  padded.take (padded.length - places) ++ '.' :: padded.drop (padded.length - places)

/-- A decimal without an exponent. -/
def Layout.positional (layout : Layout) (decimal : Scaled) : List Char :=
  if decimal.exponent < 0 then pointed (digitsOf decimal.digits) (-decimal.exponent).toNat
  else
    digitsOf decimal.digits
      ++ (if decimal.digits = 0 then [] else List.replicate decimal.exponent.toNat '0')
      ++ (if layout.pointZero then ['.', '0'] else [])

/-- A decimal with one digit in front of the point and an exponent with its sign. -/
def scientific (decimal : Scaled) (leading : Int) : List Char :=
  let digits := digitsOf decimal.digits
  digits.take 1 ++ (if digits.length = 1 then [] else '.' :: digits.drop 1)
    ++ 'e' :: (if leading < 0 then '-' else '+') :: digitsOf leading.natAbs

/-- The text of a decimal that is not negative. -/
def Layout.decimal (layout : Layout) (decimal : Scaled) : List Char :=
  let leading := decimal.exponent + (digitsOf decimal.digits).length - 1
  match layout.plain with
  | none => layout.positional decimal
  | some (low, high) =>
    if decimal.digits = 0 ∨ (low ≤ leading ∧ leading ≤ high) then layout.positional decimal
    else scientific decimal leading

/-- The text of a number. -/
def Layout.render (layout : Layout) (x : Float) : String :=
  String.ofList <|
    if isFinite x then
      (if isNegative x then ['-'] else []) ++ layout.decimal ((magnitude x).shortest layout.tie)
    else if fractionBits x = 0 then (if isNegative x then ['-'] else []) ++ ['i', 'n', 'f']
    else ['N', 'a', 'N']

/-- A number as messages and the values of commands show it. -/
def messageText (x : Float) : String := messageLayout.render x

/-- A number as documents show it. -/
def documentText (x : Float) : String := documentLayout.render x

example : [19.9, 40, -0.0, 1e-7, 1e20, 0.0 / 0.0, -1.0 / 0.0].map messageText =
    ["19.9", "40", "-0", "0.0000001", "100000000000000000000", "NaN", "-inf"] := by
  decide +kernel
example : [40, -0.0, 1e-5, 9.5e-6, 1e16, 1.5e300, 123456.75].map documentText =
    ["40.0", "-0.0", "0.00001", "9.5e-6", "1e+16", "1.5e+300", "123456.75"] := by
  decide +kernel

end HomeVoice.Decimal
