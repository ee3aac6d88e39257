import RowFilter.Calendar.Gregorian

/-!
# Day counts

A `Date` is a count of days from 1970-01-01 in 32 bits. The calendar is kept to the years −9999 to
9999; a count outside them is still a date, which prints as its count and whose year, month and day
are those of the nearer end of the calendar.
-/

namespace RowFilter

/-- A day, counted from 1970-01-01. -/
structure Date where
  /-- The signed number of days. -/
  days : Int32
deriving DecidableEq, Repr

namespace Date

/-- First day of the calendar. -/
def firstDay : Int := -4371587

/-- Last day of the calendar. -/
def lastDay : Int := 2932896

/-- First day of 1970. -/
def epoch : Date := ⟨0⟩

instance : Inhabited Date := ⟨epoch⟩

/-- Order by the count of days. -/
def compare (a b : Date) : Ordering := Ord.compare a.days.toInt b.days.toInt

/-- The count of days lies in the calendar. -/
def inCalendar (d : Date) : Bool := firstDay ≤ d.days.toInt && d.days.toInt ≤ lastDay

/-- Date of a year, month and day of the calendar. -/
def ofCalendar? (c : CalendarDate) : Option Date :=
  if -9999 ≤ c.year ∧ c.year ≤ 9999 ∧ c.isValid then some ⟨.ofInt c.dayNumber⟩ else none

/-- Date of the calendar, if it has one. -/
def toCalendar? (d : Date) : Option CalendarDate :=
  if d.inCalendar then some (.ofDayNumber d.days.toInt) else none

/-- Date of the calendar nearest to a day. -/
def toCalendar (d : Date) : CalendarDate :=
  .ofDayNumber (max firstDay (min lastDay d.days.toInt))

/-- Year of a day. -/
def year (d : Date) : Int := d.toCalendar.year

/-- Month of a day. -/
def month (d : Date) : Nat := d.toCalendar.month

/-- Day of the month of a day. -/
def day (d : Date) : Nat := d.toCalendar.day

/-- Decimal text of an integer, filled with zeros after its sign up to `width` characters. -/
def padded (width : Nat) (n : Int) : String :=
  let sign := if n < 0 then "-" else ""
  let digits := Nat.repr n.natAbs
  sign ++ String.ofList (List.replicate (width - sign.length - digits.length) '0') ++ digits

/-- Text of a day: year, month and day, or the signed count outside the calendar. -/
def text (d : Date) : String :=
  match d.toCalendar? with
  | some c => padded 4 c.year ++ "-" ++ padded 2 c.month ++ "-" ++ padded 2 c.day
  | none =>
    let n := d.days.toInt
    "epoch" ++ (if n < 0 then "" else "+") ++ toString n ++ "d"

/-- Text of a day as shown to a developer. -/
def debugText (d : Date) : String := "Date(" ++ d.text ++ ")"

/-- Read exactly `count` digits from the front. -/
def readDigits (count : Nat) (cs : List Char) : Option (Nat × List Char) :=
  let digits := cs.take count
  if digits.length = count ∧ digits.all Char.isDigit then
    some (digits.foldl (fun n c => 10 * n + (c.toNat - '0'.toNat)) 0, cs.drop count)
  else none

/-- Read a hyphen from the front. -/
def readHyphen : List Char → Option (List Char)
  | '-' :: rest => some rest
  | _ => none

/-- Read an optional sign from the front; true is minus. -/
def readSign : List Char → Bool × List Char
  | '-' :: rest => (true, rest)
  | '+' :: rest => (false, rest)
  | rest => (false, rest)

/-- Read a date of the calendar: a year of four digits with an optional sign, a month and a day of
two digits, hyphens between them, and nothing else. -/
def parse? (s : String) : Option Date := do
  let (negative, cs) := readSign s.toList
  let (year, cs) ← readDigits 4 cs
  let cs ← readHyphen cs
  let (month, cs) ← readDigits 2 cs
  let cs ← readHyphen cs
  let (day, cs) ← readDigits 2 cs
  guard cs.isEmpty
  ofCalendar? { year := if negative then -(year : Int) else year, month, day }

end Date

end RowFilter
