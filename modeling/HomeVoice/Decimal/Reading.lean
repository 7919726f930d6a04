import HomeVoice.Decimal.Binary

/-!
# Reading a number text

A number text has an optional sign, digits with at most one point among or beside them and an
optional exponent; in any case of letters it may also be `inf`, `infinity` or `nan`. The value is
the binary64 number nearest to the decimal, ties to even.
-/

namespace HomeVoice.Decimal

/-- The value of a digit. -/
def digitValue (c : Char) : Nat := c.toNat - '0'.toNat

/-- The number that a list of digits writes. -/
def natOfDigits (digits : List Char) : Nat :=
  digits.foldl (fun value digit => 10 * value + digitValue digit) 0

/-- The binary64 number nearest to `digits * 10 ^ tens`. Decimals beyond the range on either side
are settled by the place of the leading digit, so an exponent of any size is no work. -/
def nearest (digits : Nat) (tens : Int) : Float :=
  let leading := tens + (Nat.toDigits 10 digits).length
  if digits = 0 ∨ leading < -330 then 0
  else if 310 < leading then 1 / 0
  else Float.ofScientific digits (tens < 0) tens.natAbs

/-- A number of digits and nothing else. -/
def readDigits (digits : List Char) : Option Int :=
  if digits ≠ [] ∧ digits.all Char.isDigit then some (natOfDigits digits) else none

/-- The exponent part: empty, or a letter, an optional sign and digits. -/
def readExponent : List Char → Option Int
  | [] => some 0
  | letter :: rest =>
    if letter = 'e' ∨ letter = 'E' then
      match rest with
      | '-' :: digits => (readDigits digits).map Neg.neg
      | '+' :: digits => readDigits digits
      | digits => readDigits digits
    else none

/-- A number text without its sign. -/
def readUnsigned (text : List Char) : Option Float :=
  let word := text.map Char.toLower
  if word = "inf".toList ∨ word = "infinity".toList then some (1 / 0)
  else if word = "nan".toList then some (0 / 0)
  else
    let whole := text.takeWhile Char.isDigit
    let (places, rest) := match text.dropWhile Char.isDigit with
      | '.' :: rest => (rest.takeWhile Char.isDigit, rest.dropWhile Char.isDigit)
      | rest => ([], rest)
    if whole = [] ∧ places = [] then none
    else (readExponent rest).map fun tens =>
      nearest (natOfDigits (whole ++ places)) (tens - places.length)

/-- The value of a number text, if it is one. -/
def readNumber (text : String) : Option Float :=
  match text.toList with
  | '-' :: rest => (readUnsigned rest).map Neg.neg
  | '+' :: rest => readUnsigned rest
  | text => readUnsigned text

example : ["1.", ".5", "+.5e1", "1e999999999999", "-inF", "1e-999999999999"].map readNumber =
    [some 1, some 0.5, some 5, some (1 / 0), some (-1 / 0), some 0] := by decide +kernel
example : ["", ".", "e5", "1e", "1e+", " 1", "0x1", "1_0", "+-1"].map readNumber =
    List.replicate 9 none := by decide +kernel

end HomeVoice.Decimal
