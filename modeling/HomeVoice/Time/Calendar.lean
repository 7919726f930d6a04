/-!
# Dates of the Gregorian calendar as day numbers

Days are counted from the first of January 1970. The calendar is extended to all years, the year
before year 1 being year 0. Years are counted from March on inside, so that the leap day is the
last day of its year and one formula gives the start of every month.
-/

namespace HomeVoice.Time

/-- A day of the calendar. -/
structure Date where
  year : Int
  month : Nat
  day : Nat
  deriving DecidableEq, Repr

def isLeapYear (year : Int) : Bool := year % 4 = 0 && (year % 100 ≠ 0 || year % 400 = 0)

/-- The number of days of a month; none of the months beyond twelve has any. -/
def daysInMonth (year : Int) : Nat → Nat
  | 2 => if isLeapYear year then 29 else 28
  | 4 | 6 | 9 | 11 => 30
  | 1 | 3 | 5 | 7 | 8 | 10 | 12 => 31
  | _ => 0

/-- The month and the day exist. -/
def Date.isValid (date : Date) : Bool :=
  1 ≤ date.day && date.day ≤ daysInMonth date.year date.month

/-- The days of a cycle of four hundred years. -/
def cycleDays : Int := 146097

/-- The days from the first of March of year 0 to the first of January 1970. -/
def epochOffset : Int := 719468

/-- The number of a day. -/
def Date.dayNumber (date : Date) : Int :=
  let year := if date.month ≤ 2 then date.year - 1 else date.year
  let cycle := year.fdiv 400
  let yearOfCycle := year.fmod 400
  let month : Int := if date.month ≤ 2 then date.month + 9 else date.month - 3
  let dayOfYear := (153 * month + 2) / 5 + date.day - 1
  cycle * cycleDays + yearOfCycle * 365 + yearOfCycle / 4 - yearOfCycle / 100 + dayOfYear
    - epochOffset

/-- The day with this number. -/
def Date.ofDayNumber (number : Int) : Date :=
  let shifted := number + epochOffset
  let cycle := shifted.fdiv cycleDays
  let dayOfCycle := shifted.fmod cycleDays
  let yearOfCycle :=
    (dayOfCycle - dayOfCycle / 1460 + dayOfCycle / 36524 - dayOfCycle / 146096) / 365
  let dayOfYear := dayOfCycle - (365 * yearOfCycle + yearOfCycle / 4 - yearOfCycle / 100)
  let month := (5 * dayOfYear + 2) / 153
  { year := yearOfCycle + cycle * 400 + (if month < 10 then 0 else 1)
    month := (if month < 10 then month + 3 else month - 9).toNat
    day := (dayOfYear - (153 * month + 2) / 5 + 1).toNat }

example : (⟨1970, 1, 1⟩ : Date).dayNumber = 0 := by decide
example : [(⟨2024, 2, 29⟩ : Date), ⟨2000, 12, 31⟩, ⟨-1, 3, 1⟩, ⟨0, 1, 1⟩].map
    (fun date => Date.ofDayNumber date.dayNumber) =
    [⟨2024, 2, 29⟩, ⟨2000, 12, 31⟩, ⟨-1, 3, 1⟩, ⟨0, 1, 1⟩] := by decide
example : [1900, 2000, 2023, 2024].map (daysInMonth · 2) = [28, 29, 28, 29] := by decide

end HomeVoice.Time
