import FrameCourier.Text.Padded
import FrameCourier.Time.Calendar

/-!
# Instants

An instant is a whole second counted from 1970 and nanoseconds within it.  A leap second
is the time after a second and before the next one: its nanoseconds start at a thousand million.
Clocks put leap seconds only after the last second of a minute, but an instant may have one
anywhere.  Years have at most six digits.

`Instant.text` writes an instant in universal time with as many digits of the fraction as
it needs, in groups of three.
-/

namespace FrameCourier.Time

/-- Nanoseconds of a second. -/
def nanosecondsPerSecond : Nat := 1000000000

def secondsPerDay : Int := 86400

/-- The first and the last day on which an instant can be. -/
def firstDay : Int := Date.toDays ⟨-262143, 1, 1⟩
def lastDay : Int := Date.toDays ⟨262142, 12, 31⟩

structure Instant where
  /-- Whole seconds since the start of 1970, leap seconds not counted. -/
  seconds : Int
  nanoseconds : Nat
  /-- The day is one that an instant can be on. -/
  valid : firstDay * secondsPerDay ≤ seconds ∧ seconds < (lastDay + 1) * secondsPerDay ∧
    nanoseconds < 2 * nanosecondsPerSecond
  deriving DecidableEq

namespace Instant

open Text (padded)

instance : Repr Instant where
  reprPrec t _ := f!"{t.seconds}s {t.nanoseconds}ns"

/-- The instant of the given seconds and nanoseconds, if it is one. -/
def make? (seconds : Int) (nanoseconds : Nat) : Option Instant :=
  if h : firstDay * secondsPerDay ≤ seconds ∧ seconds < (lastDay + 1) * secondsPerDay ∧
      nanoseconds < 2 * nanosecondsPerSecond then
    some ⟨seconds, nanoseconds, h⟩
  else none

/-- The day of an instant. -/
def day (t : Instant) : Int := t.seconds / secondsPerDay

/-- The seconds since the start of the day. -/
def secondOfDay (t : Instant) : Nat := (t.seconds % secondsPerDay).toNat

/-- A year of four digits, with a sign only where it has more or is before year 0. -/
def yearText (year : Int) : String :=
  if 0 ≤ year && year ≤ 9999 then padded 4 year.toNat
  else (if year < 0 then "-" else "+") ++ padded 4 year.natAbs

/-- A fraction of a second in three, six or nine digits; nothing if it is zero. -/
def fractionText (nanoseconds : Nat) : String :=
  if nanoseconds = 0 then ""
  else if nanoseconds % 1000000 = 0 then "." ++ padded 3 (nanoseconds / 1000000)
  else if nanoseconds % 1000 = 0 then "." ++ padded 6 (nanoseconds / 1000)
  else "." ++ padded 9 nanoseconds

/-- The instant in universal time.  A leap second has the number behind that of its second: 60
after the last one of a minute, otherwise that of the next second. -/
def text (t : Instant) : String :=
  let date := Date.ofDays t.day
  let n := t.secondOfDay
  yearText date.year ++ "-" ++ padded 2 date.month ++ "-" ++ padded 2 date.day ++ "T" ++
    padded 2 (n / 3600) ++ ":" ++ padded 2 (n / 60 % 60) ++ ":" ++
    padded 2 (n % 60 + t.nanoseconds / nanosecondsPerSecond) ++
    fractionText (t.nanoseconds % nanosecondsPerSecond) ++ "Z"

/-- The nanoseconds from `earlier` to `t`.  A leap second in progress at one of them counts
if the other is at a later time of day. -/
def nanosecondsSince (t earlier : Instant) : Int :=
  let leap : Int :=
    if earlier.secondOfDay < t.secondOfDay && nanosecondsPerSecond ≤ earlier.nanoseconds then 1
    else if t.secondOfDay < earlier.secondOfDay && nanosecondsPerSecond ≤ t.nanoseconds then -1
    else 0
  (t.seconds - earlier.seconds + leap) * nanosecondsPerSecond + t.nanoseconds - earlier.nanoseconds

/-- The whole milliseconds from `earlier` to `t`, cut toward zero. -/
def millisecondsSince (t earlier : Instant) : Int :=
  Int.tdiv (t.nanosecondsSince earlier) 1000000

end Instant

end FrameCourier.Time
