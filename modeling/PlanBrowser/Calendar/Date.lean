/-!
# Calendar dates

The proleptic Gregorian calendar: the rule of leap years that holds since 1582 is used for every year, and
years before the year one are counted down through zero.

The days are cut into eras of `400` years, each of `146097` days, that begin on the first of March.  Inside
an era the year and the day in the year come from one division each, because a year that begins in March has
its leap day at the end.

* `Date` — year, month and day of the month;
* `Date.ofDays` — the date that lies some days after the first of January 1970.
-/

namespace PlanBrowser.Calendar

/-- A date; months and days are counted from one. -/
structure Date where
  year : Int
  month : Nat
  day : Nat
  deriving Repr, DecidableEq

/-- The first of March of the year zero lies this many days before the first of January 1970. -/
def epochShift : Int := 719468

/-- The days of an era. -/
def eraDays : Int := 146097

/-- The year in its era of a day in that era. -/
def yearOfEra (day : Nat) : Nat :=
  (day - day / 1460 + day / 36524 - day / 146096) / 365

/-- The days of an era before its year `y` begins. -/
def daysBeforeYear (y : Nat) : Nat :=
  365 * y + y / 4 - y / 100

/-- The days of a year before its month `m` begins, where March is month zero. -/
def daysBeforeMonth (m : Nat) : Nat :=
  (153 * m + 2) / 5

/-- **The date** that lies `days` after the first of January 1970, or before it. -/
def Date.ofDays (days : Int) : Date :=
  let shifted := days + epochShift
  let era := shifted / eraDays
  let dayOfEra := (shifted % eraDays).toNat
  let year := yearOfEra dayOfEra
  let dayOfYear := dayOfEra - daysBeforeYear year
  let march := (5 * dayOfYear + 2) / 153
  let day := dayOfYear - daysBeforeMonth march + 1
  if march < 10 then ⟨era * 400 + year, march + 3, day⟩
  else ⟨era * 400 + year + 1, march - 9, day⟩

end PlanBrowser.Calendar
