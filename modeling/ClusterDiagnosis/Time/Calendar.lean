/-!
Days of the Gregorian calendar, extended to all years, as a count of days.
-/

set_option autoImplicit false
set_option relaxedAutoImplicit false

namespace ClusterDiagnosis

/-- A day of the calendar; whether the year has it is a question of its own. -/
structure Day where
  year : Int
  month : Int
  day : Int
  deriving DecidableEq, Repr, Inhabited

namespace Day

def isLeapYear (year : Int) : Bool :=
  year % 4 == 0 && (year % 100 != 0 || year % 400 == 0)

/-- The number of days of a month. -/
def monthLength (year month : Int) : Int :=
  if month = 2 then (if isLeapYear year then 29 else 28)
  else if month = 4 ∨ month = 6 ∨ month = 9 ∨ month = 11 then 30
  else 31

/-- The number of days of a year. -/
def yearLength (year : Int) : Int :=
  if isLeapYear year then 366 else 365

/-- The number of days of the first `k` months of a year. -/
def daysOfMonths (year : Int) : Nat → Int
  | 0 => 0
  | k + 1 => daysOfMonths year k + monthLength year (k + 1)

/-- The number of days before the month, in its year. -/
def daysBeforeMonth (year month : Int) : Int :=
  daysOfMonths year (month - 1).toNat

/-- The number of days before the year, counted from the first day of year 1. -/
def daysBeforeYear (year : Int) : Int :=
  let y := year - 1
  365 * y + y / 4 - y / 100 + y / 400

/-- Years that have a date. -/
def isYear (year : Int) : Bool :=
  1 ≤ year && year ≤ 9999

/-- Whether the calendar has the day. -/
def isReal (d : Day) : Bool :=
  isYear d.year && 1 ≤ d.month && d.month ≤ 12 && 1 ≤ d.day && d.day ≤ monthLength d.year d.month

/-- The number of the day, counted from 0 for the first day of year 1. -/
def number (d : Day) : Int :=
  daysBeforeYear d.year + daysBeforeMonth d.year d.month + (d.day - 1)

/-- The first day of 1970. -/
def epoch : Day := ⟨1970, 1, 1⟩

/-- The weekday of a day number: 0 for Monday to 6 for Sunday. -/
def weekday (number : Int) : Int :=
  number % 7

/-- The number of the Monday of the first week of a year, the week with the fourth of January. -/
def firstMonday (year : Int) : Int :=
  let fourth := number ⟨year, 1, 4⟩
  fourth - weekday fourth

/-- The number of the last day that has a date. -/
def lastNumber : Int :=
  number ⟨9999, 12, 31⟩

/-- The year that the day with the given number lies in. -/
def yearOf (number : Int) : Int :=
  let guess := number * 400 / 146097 + 1
  if daysBeforeYear (guess + 1) ≤ number then guess + 1
  else if number < daysBeforeYear guess then guess - 1
  else guess

/-- The last of the months `k` down to 1 that does not start behind the `rest`-th day of a year. -/
def monthOf (year rest : Int) : Nat → Int
  | 0 => 1
  | k + 1 => if daysOfMonths year k ≤ rest then k + 1 else monthOf year rest k

/-- The day with the given number. -/
def ofNumber (number : Int) : Day :=
  let year := yearOf number
  let rest := number - daysBeforeYear year
  let month := monthOf year rest 12
  ⟨year, month, rest - daysBeforeMonth year month + 1⟩

/-- The day after. -/
def next (d : Day) : Day :=
  if d.day < monthLength d.year d.month then { d with day := d.day + 1 }
  else if d.month < 12 then ⟨d.year, d.month + 1, 1⟩
  else ⟨d.year + 1, 1, 1⟩

end Day

end ClusterDiagnosis
