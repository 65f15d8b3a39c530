import PlanBrowser.Calendar.Date
import PlanBrowser.Text.Numeral

/-!
# Instants and their timestamps

An instant is a number of seconds since the first of January 1970, which may be negative, and the
nanoseconds that have passed in that second.  A second that the calendar lengthens by a leap second has up to
twice as many of them.

The **timestamp** of an instant is `YYYY-MM-DDTHH:MM:SS.mmmZ`, rounded down to the millisecond.  A year
outside `0` to `9999` is written with its sign and at least four digits.

* `Instant` — a point in time;
* `padded` — a number with leading zeros;
* `Instant.timestamp` — its text.
-/

namespace PlanBrowser.Calendar

open PlanBrowser.Text (digits)

/-- A point in time. -/
structure Instant where
  /-- Whole seconds since the first of January 1970. -/
  seconds : Int
  /-- Nanoseconds in that second. -/
  nanos : Nat
  deriving Repr, DecidableEq, Inhabited

/-- The digits of a number, with zeros in front up to `width` digits. -/
def padded (width n : Nat) : List Char :=
  List.replicate (width - (digits n).length) '0' ++ digits n

/-- The year of a timestamp. -/
def yearDigits (year : Int) : List Char :=
  if year < 0 then '-' :: padded 4 year.natAbs
  else if 9999 < year then '+' :: padded 4 year.natAbs
  else padded 4 year.natAbs

/-- The day of an instant, counted from the first of January 1970. -/
def Instant.day (t : Instant) : Int :=
  t.seconds / 86400

/-- The second of its day in which an instant lies. -/
def Instant.secondOfDay (t : Instant) : Nat :=
  (t.seconds % 86400).toNat

/-- The timestamp, as characters. -/
def Instant.stamp (t : Instant) : List Char :=
  let date := Date.ofDays t.day
  let s := t.secondOfDay
  yearDigits date.year ++ '-' :: padded 2 date.month ++ '-' :: padded 2 date.day
    ++ 'T' :: padded 2 (s / 3600) ++ ':' :: padded 2 (s / 60 % 60)
    ++ ':' :: padded 2 (s % 60 + t.nanos / 1000000000)
    ++ '.' :: padded 3 (t.nanos % 1000000000 / 1000000) ++ ['Z']

/-- **The timestamp** of an instant. -/
def Instant.timestamp (t : Instant) : String :=
  String.ofList t.stamp

end PlanBrowser.Calendar
