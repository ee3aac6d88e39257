/-!
# The proleptic Gregorian calendar

Days are numbered from 1970-01-01, which is day zero, and the Gregorian leap rule is taken to hold
for all years, year zero and negative years included. `dayNumber` counts the days up to a date, and
`ofDayNumber` is its inverse: the year is estimated by the mean length of a year and corrected by at
most one, then the month is the number of months that have begun by that day of the year.
-/

namespace RowFilter

namespace Gregorian

/-- A year is a leap year if four divides it, unless a hundred does and four hundred does not. -/
def isLeapYear (year : Int) : Bool :=
  year % 4 = 0 && (year % 100 != 0 || year % 400 = 0)

/-- Number of days of a month of a year; zero for a number that names no month. -/
def daysInMonth (year : Int) (month : Nat) : Nat :=
  match month with
  | 1 | 3 | 5 | 7 | 8 | 10 | 12 => 31
  | 4 | 6 | 9 | 11 => 30
  | 2 => if isLeapYear year then 29 else 28
  | _ => 0

/-- Number of days from the first day of year zero to the first day of a year. -/
def daysBeforeYear (year : Int) : Int :=
  365 * year + (year - 1) / 4 - (year - 1) / 100 + (year - 1) / 400 + 1

/-- Number of days of the year before each month, January first. -/
def monthStarts (year : Int) : List Nat :=
  let february := if isLeapYear year then 1 else 0
  [0, 31] ++ [59, 90, 120, 151, 181, 212, 243, 273, 304, 334].map (· + february)

/-- Day number of the first day of year zero, with its sign changed. -/
def epochOffset : Int := 719528

/-- Day number of a date. -/
def dayNumber (year : Int) (month day : Nat) : Int :=
  daysBeforeYear year + ((monthStarts year)[month - 1]?.getD 0 : Nat) + day - 1 - epochOffset

/-- Year that holds the day `n` days after the first day of year zero. -/
def yearOf (n : Int) : Int :=
  let estimate := 400 * n / 146097
  if n < daysBeforeYear estimate then estimate - 1
  else if n < daysBeforeYear (estimate + 1) then estimate
  else estimate + 1

end Gregorian

/-- A date of the calendar. -/
structure CalendarDate where
  /-- The year, zero and negative years included. -/
  year : Int
  /-- The month, January being one. -/
  month : Nat
  /-- The day of the month, from one. -/
  day : Nat
deriving DecidableEq, Repr

namespace CalendarDate

/-- The month exists and has that day. -/
def isValid (d : CalendarDate) : Bool :=
  1 ≤ d.day && d.day ≤ Gregorian.daysInMonth d.year d.month

/-- Day number of a date. -/
def dayNumber (d : CalendarDate) : Int := Gregorian.dayNumber d.year d.month d.day

/-- Date of a day number. -/
def ofDayNumber (n : Int) : CalendarDate :=
  let days := n + Gregorian.epochOffset
  let year := Gregorian.yearOf days
  let dayOfYear := (days - Gregorian.daysBeforeYear year).toNat
  let starts := Gregorian.monthStarts year
  let month := starts.countP (· ≤ dayOfYear)
  { year, month, day := dayOfYear - starts[month - 1]?.getD 0 + 1 }

end CalendarDate

end RowFilter
