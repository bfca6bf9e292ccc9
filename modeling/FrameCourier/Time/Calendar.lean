/-!
# The calendar

Dates are those of the Gregorian calendar, extended without end in both directions; the
year before 1 is 0.  Days are counted from 1970-01-01.

A day number is the days of all years before, of all months before, and of the month.  The
way back estimates the year from the mean length of one and corrects the estimate by the
first days of the neighbouring years.
-/

namespace FrameCourier.Time

/-- A day of a year and month. -/
structure Date where
  year : Int
  month : Nat
  day : Nat
  deriving DecidableEq, Repr

def isLeapYear (year : Int) : Bool :=
  year % 4 == 0 && (year % 100 != 0 || year % 400 == 0)

/-- The days of all years from 1 up to but not including `year`; negative before year 1. -/
def daysBeforeYear (year : Int) : Int :=
  let y := year - 1
  365 * y + y / 4 - y / 100 + y / 400

/-- The lengths of the months of a year. -/
def monthLengths (leap : Bool) : List Nat :=
  [31, if leap then 29 else 28, 31, 30, 31, 30, 31, 31, 30, 31, 30, 31]

/-- The length of a month; zero for a month that there is not. -/
def daysInMonth (year : Int) (month : Nat) : Nat :=
  if month = 0 then 0 else ((monthLengths (isLeapYear year))[month - 1]?).getD 0

/-- The days of a year before a month. -/
def daysBeforeMonth (leap : Bool) (month : Nat) : Nat :=
  ((monthLengths leap).take (month - 1)).foldl (· + ·) 0

/-- The number of 1970-01-01, counted from the first day of year 1. -/
def epochDay : Int := 719162

namespace Date

/-- Whether there is such a day. -/
def isValid (date : Date) : Bool :=
  1 ≤ date.day && date.day ≤ daysInMonth date.year date.month

/-- The number of a day. -/
def toDays (date : Date) : Int :=
  daysBeforeYear date.year + daysBeforeMonth (isLeapYear date.year) date.month + date.day - 1 -
    epochDay

/-- The year of the day that comes `n` days after the first day of year 1. -/
def yearOfDay (n : Int) : Int :=
  let guess := n * 400 / 146097 + 1
  if n < daysBeforeYear guess then guess - 1
  else if daysBeforeYear (guess + 1) ≤ n then guess + 1
  else guess

/-- The month and day of a day of the year, counted from zero, among the months from
`month` on. -/
def monthOfDay (month : Nat) : List Nat → Nat → Nat × Nat
  | [], n => (month, n + 1)
  | length :: rest, n =>
    if n < length then (month, n + 1) else monthOfDay (month + 1) rest (n - length)

/-- The date of a day number. -/
def ofDays (days : Int) : Date :=
  let n := days + epochDay
  let year := yearOfDay n
  let (month, day) := monthOfDay 1 (monthLengths (isLeapYear year)) (n - daysBeforeYear year).toNat
  ⟨year, month, day⟩

end Date

end FrameCourier.Time
