import HomeVoice.Decimal.Layout
import HomeVoice.Decimal.Reading

/-!
# Numbers of documents

A number without a point and without an exponent is an integer if it fits 64 bits, unsigned when
positive and signed when negative; any other number, and the negative zero, is a binary64 number.
That one is built from the leading digits that fit 64 bits and one power of ten, with a rounding
at each of the two operations, so its last bit may differ from that of the nearest number.
-/

namespace HomeVoice.Json

open Decimal (digitValue natOfDigits isFinite)

/-- A number of a document. -/
inductive Number where
  | integer (value : Int)
  | floating (value : Float)
  deriving DecidableEq, Repr

namespace Number

/-- The parts of a number text. -/
structure Token where
  negative : Bool
  whole : List Char
  /-- The digits behind the point. -/
  places : Option (List Char)
  /-- The sign and the digits of the exponent. -/
  exponent : Option (Bool × List Char)
  deriving DecidableEq, Repr

/-- Cut a number text into its parts. -/
def Token.ofText (text : List Char) : Token :=
  let (negative, unsigned) := match text with
    | '-' :: rest => (true, rest)
    | _ => (false, text)
  let (places, rest) := match unsigned.dropWhile Char.isDigit with
    | '.' :: rest => (some (rest.takeWhile Char.isDigit), rest.dropWhile Char.isDigit)
    | rest => (none, rest)
  { negative
    whole := unsigned.takeWhile Char.isDigit
    places
    exponent := match rest with
      | [] => none
      | _ :: '-' :: digits => some (true, digits)
      | _ :: '+' :: digits => some (false, digits)
      | _ :: digits => some (false, digits) }

/-- Append digits to a number as long as it stays below `2 ^ 64`; the digits left over. -/
def gather (start : Nat) : List Char → Nat × List Char
  | [] => (start, [])
  | digit :: rest =>
    let next := 10 * start + digitValue digit
    if next < UInt64.size then gather next rest else (start, digit :: rest)

/-- A power of ten as a binary64 number. -/
def powerOfTen (tens : Nat) : Float := Float.ofScientific 1 false tens

/-- `significand * 10 ^ tens` by factors of at most `10 ^ 308`, none beyond the range. Two such
factors bring every significand below `2 ^ 64` to zero. -/
def scale (significand : Nat) (tens : Int) : Option Float :=
  let value := Float.ofNat significand
  if 308 < tens then if significand = 0 then some 0 else none
  else if 0 ≤ tens then
    let product := value * powerOfTen tens.toNat
    if isFinite product then some product else none
  else if -308 ≤ tens then some (value / powerOfTen (-tens).toNat)
  else if -616 ≤ tens then some (value / powerOfTen 308 / powerOfTen (-tens - 308).toNat)
  else some 0

/-- The exponents that are taken at their value. Larger ones mean zero, or a number beyond the
range if the digits are not all zero. -/
def exponentLimit : Nat := 0x80000000

/-- The size of a number as binary64. -/
def Token.size (token : Token) : Option Float :=
  let (lead, wholeLeft) := gather 0 token.whole
  let places := token.places.getD []
  let (significand, placesLeft) := gather lead places
  let tens : Int := wholeLeft.length - (places.length - placesLeft.length : Nat)
  match token.exponent with
  | none => scale significand tens
  | some (negative, digits) =>
    let exponent := natOfDigits digits
    if exponent < exponentLimit then
      scale significand (if negative then tens - exponent else tens + exponent)
    else if significand = 0 ∨ negative then some 0
    else none

/-- The number that a token writes; none beyond the range of binary64. -/
def Token.value (token : Token) : Option Number :=
  let integer := natOfDigits token.whole
  if token.places.isNone && token.exponent.isNone && !token.negative && integer < UInt64.size then
    some (.integer integer)
  else if token.places.isNone && token.exponent.isNone && token.negative
      && 0 < integer && integer ≤ 0x8000000000000000 then
    some (.integer (-integer))
  else token.size.map fun size => .floating (if token.negative then -size else size)

/-- The value of a number text. -/
def ofText (text : List Char) : Option Number := (Token.ofText text).value

/-- A number as documents write it. -/
def text : Number → String
  | .integer value => toString value
  | .floating value => Decimal.documentText value

example : ["0", "18446744073709551615", "-9223372036854775808"].map (ofText ·.toList) =
    [some (.integer 0), some (.integer 18446744073709551615),
     some (.integer (-9223372036854775808))] := by decide +kernel
example : ["-0", "1.5e3", "18446744073709551616", "1e-400", "0e99999999999"].map (ofText ·.toList) =
    [some (.floating (-0.0)), some (.floating 1500), some (.floating 18446744073709551616),
     some (.floating 0), some (.floating 0)] := by decide +kernel
example : ["1e309", "1e99999999999"].map (ofText ·.toList) = [none, none] := by decide +kernel

end Number

end HomeVoice.Json
