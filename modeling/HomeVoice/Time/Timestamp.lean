import HomeVoice.Decimal.Layout
import HomeVoice.Decimal.Reading
import HomeVoice.Text.Blank
import HomeVoice.Time.Calendar

/-!
# Points in time and their text

A point in time is written in universal time with the letter `Z` and as many places of the second
as it needs: none, three, six or nine. It is read with any offset, in a form that also admits
blanks around the parts, a blank or a small letter between date and time and a missing fraction.
-/

namespace HomeVoice.Time

/-- A point in time: whole seconds since the start of 1970 in universal time, and the nanoseconds
behind them. A leap second is the second before it with a billion nanoseconds more. -/
structure Timestamp where
  seconds : Int
  nanoseconds : Nat
  deriving DecidableEq, Repr

/-- Why a text is no point in time. -/
inductive TimeFault where
  | invalid | tooShort | outOfRange | impossible | trailing
  deriving DecidableEq, Repr

def TimeFault.message : TimeFault → String
  | .invalid => "input contains invalid characters"
  | .tooShort => "premature end of input"
  | .outOfRange => "input is out of range"
  | .impossible => "no possible date and time matching input"
  | .trailing => "trailing input"

/-- A number in at least so many digits. -/
def padded (width : Nat) (n : Nat) : List Char :=
  let digits := Decimal.digitsOf n
  List.replicate (width - digits.length) '0' ++ digits

/-- A year: four digits, or more of them behind a sign. -/
def yearText (year : Int) : List Char :=
  if 0 ≤ year ∧ year ≤ 9999 then padded 4 year.toNat
  else (if year < 0 then '-' else '+') :: padded 4 year.natAbs

/-- The places of a second. -/
def fractionText (nanoseconds : Nat) : List Char :=
  if nanoseconds = 0 then []
  else if nanoseconds % 1000000 = 0 then '.' :: padded 3 (nanoseconds / 1000000)
  else if nanoseconds % 1000 = 0 then '.' :: padded 6 (nanoseconds / 1000)
  else '.' :: padded 9 nanoseconds

/-- The text of a point in time. -/
def Timestamp.text (time : Timestamp) : String :=
  let date := Date.ofDayNumber (time.seconds.fdiv 86400)
  let second := (time.seconds.fmod 86400).toNat
  let leap := time.nanoseconds / 1000000000
  String.ofList <|
    yearText date.year ++ '-' :: padded 2 date.month ++ '-' :: padded 2 date.day
      ++ 'T' :: padded 2 (second / 3600) ++ ':' :: padded 2 (second / 60 % 60)
      ++ ':' :: padded 2 (second % 60 + leap)
      ++ fractionText (time.nanoseconds % 1000000000) ++ ['Z']

/-- A step of the reading, which consumes the front of the text. -/
abbrev Scan := StateT (List Char) (Except TimeFault)

namespace Scan

def skipBlanks : Scan Unit := modify Text.trimStart

/-- A given character. -/
def literal (c : Char) : Scan Unit := do
  match ← get with
  | [] => throw .tooShort
  | d :: rest => if d = c then set rest else throw .invalid

/-- A number of at least one digit and at most so many. -/
def number (width : Nat) : Scan Nat := do
  let text ← get
  let digits := (text.take width).takeWhile Char.isDigit
  if text.isEmpty then throw .tooShort
  if digits.isEmpty then throw .invalid
  let value := Decimal.natOfDigits digits
  if 0x8000000000000000 ≤ value then throw .outOfRange
  set (text.drop digits.length)
  return value

/-- A number that lies within bounds. -/
def numberIn (low high : Nat) : Scan Nat := do
  skipBlanks
  let value ← number 2
  if low ≤ value ∧ value ≤ high then return value else throw .outOfRange

/-- A year of four digits, or of any number of digits behind a sign. -/
def year : Scan Int := do
  skipBlanks
  let text ← get
  let value : Int ← match text with
    | '-' :: rest => do
      set rest
      return -(← number rest.length)
    | '+' :: rest => do
      set rest
      number rest.length
    | _ => number 4
  if -0x80000000 ≤ value ∧ value < 0x80000000 then return value else throw .outOfRange

/-- The places of the second, of which nine count. -/
def fraction : Scan Nat := do
  match ← get with
  | '.' :: rest => do
    set rest
    let digits := (rest.take 9).takeWhile Char.isDigit
    let value ← number 9
    modify (·.dropWhile Char.isDigit)
    return value * Nat.pow 10 (9 - digits.length)
  | _ => return 0

/-- Two digits as a number; the first of them is at most `limit`. -/
def twoDigits (limit : Char) : Scan Nat := do
  match ← get with
  | tens :: ones :: rest =>
    if tens.isDigit && ones.isDigit then
      if limit < tens then throw .outOfRange
      set rest
      return 10 * Decimal.digitValue tens + Decimal.digitValue ones
    else throw .invalid
  | [c] => throw (if c.toNat < 0x80 then .tooShort else .invalid)
  | [] => throw .tooShort

/-- The offset to universal time in seconds. -/
def offset : Scan Int := do
  skipBlanks
  let text ← get
  if (text.take 3).map Char.toLower = ['u', 't', 'c'] then
    set (text.drop 3)
    return 0
  match text with
  | [] => throw .tooShort
  | sign :: rest =>
    set rest
    if sign = 'Z' ∨ sign = 'z' then return 0
    if sign ≠ '+' ∧ sign ≠ '-' ∧ sign ≠ '\u2212' then throw .invalid
    let hours ← twoDigits '9'
    modify (·.dropWhile fun c => c == ':' || Text.isBlank c)
    let minutes ← twoDigits '5'
    let size : Int := hours * 3600 + minutes * 60
    return if sign = '+' then size else -size

/-- The separator of date and time. -/
def separator : Scan Unit := do
  match ← get with
  | [] => throw .tooShort
  | c :: rest => if c = 'T' ∨ c = 't' ∨ c = ' ' then set rest else throw .invalid

end Scan

/-- The first and the last year that points in time may lie in. -/
def firstYear : Int := -262143

def lastYear : Int := 262142

/-- The day lies in one of the years of points in time. -/
def isWithinYears (dayNumber : Int) : Bool :=
  (⟨firstYear, 1, 1⟩ : Date).dayNumber ≤ dayNumber
    && dayNumber ≤ (⟨lastYear, 12, 31⟩ : Date).dayNumber

/-- Read a point in time. -/
def Timestamp.scan : Scan Timestamp := do
  let year ← Scan.year
  Scan.skipBlanks
  Scan.literal '-'
  let month ← Scan.numberIn 1 12
  Scan.skipBlanks
  Scan.literal '-'
  let day ← Scan.numberIn 1 31
  Scan.separator
  let hour ← Scan.numberIn 0 23
  Scan.skipBlanks
  Scan.literal ':'
  let minute ← Scan.numberIn 0 59
  Scan.skipBlanks
  Scan.literal ':'
  let second ← Scan.numberIn 0 60
  let nanoseconds ← Scan.fraction
  let offset ← Scan.offset
  Scan.skipBlanks
  unless (← get).isEmpty do throw .trailing
  let date : Date := ⟨year, month, day⟩
  unless date.isValid && isWithinYears date.dayNumber do throw .outOfRange
  unless offset.natAbs < 86400 do throw .outOfRange
  let leap := second / 60
  let seconds :=
    date.dayNumber * 86400 + (hour * 3600 + minute * 60 + (second - leap) : Nat) - offset
  unless isWithinYears (seconds.fdiv 86400) do throw .impossible
  return ⟨seconds, nanoseconds + leap * 1000000000⟩

/-- The point in time that a text writes. -/
def Timestamp.ofText (text : String) : Except TimeFault Timestamp :=
  (Timestamp.scan.run text.toList).map Prod.fst

/-- What is read of a text, or why it is not. -/
private def reread (text : String) : String :=
  match Timestamp.ofText text with
  | .ok time => time.text
  | .error fault => fault.message

example : ["2024-01-01T12:00:00+02:00", "2024-01-01T00:30:00.5-01:00", "2016-12-31t23:59:60Z",
    "2024-02-29T00:00:00.000120Z", " +10000 - 1-1 1:2:3.1234567891 UTC "].map reread =
    ["2024-01-01T10:00:00Z", "2024-01-01T01:30:00.500Z", "2016-12-31T23:59:60Z",
     "2024-02-29T00:00:00.000120Z", "+10000-01-01T01:02:03.123456789Z"] := by
  decide +kernel
example : ["2024-01-01T00:00:00", "2024-13-01T00:00:00Z", "2023-02-29T00:00:00Z",
    "2024-01-01T00:00:00Zx", "2024/01/01", "+262142-12-31T23:00:00-02:00"].map reread =
    ["premature end of input", "input is out of range", "input is out of range",
     "trailing input", "input contains invalid characters",
     "no possible date and time matching input"] := by
  decide +kernel

end HomeVoice.Time
