import Mathlib.Tactic.IntervalCases
import PlanBrowser.Calendar.Date

/-!
# Counting days

A year has the days of its months, and February has one more in a leap year.  So the days before a date are those of the
years before its year, of the months before its month, and of its own month before it.  Counted like this, the days go up by
one from each date to the next, with no use of eras or of years that begin in March.

The date that lies some days after another one is found the other way round, by divisions.  In an era a year that begins in
March is found by its century, its four years in the century, and its place among these.

* `isLeap`, `monthLength`, `monthStart`, `yearLength`, `yearStart` — **the proleptic Gregorian calendar**, month by month;
* `Date.IsReal`, `Date.count`, `Date.toDays` — the dates that there are, and the days before them;
* `yearStart_eq` — the days before a year, in one formula;
* `yearOfEra_eq`, `Date.exists_ofDays_eq` — the year of a day of an era, and the year that begins in March;
* `Date.isReal_ofDays`, `Date.toDays_ofDays` — **the date of a day is the one that has so many days before it**;
* `Date.count_lt_iff`, `Date.before_ofDays_iff` — a date has fewer days before it than another one just if it is earlier.
-/

namespace PlanBrowser.Calendar

/-! ## The calendar -/

/-- **Leap years** are those divisible by four, but of the last years of centuries only those divisible by four hundred. -/
def isLeap (y : Nat) : Bool :=
  y % 4 == 0 && (y % 100 != 0 || y % 400 == 0)

/-- The days of a month of a year; there are twelve months, counted from one. -/
def monthLength (y : Nat) : Nat → Nat
  | 2 => if isLeap y then 29 else 28
  | 4 | 6 | 9 | 11 => 30
  | 1 | 3 | 5 | 7 | 8 | 10 | 12 => 31
  | _ => 0

/-- The days of a year before a month. -/
def monthStart (y : Nat) : Nat → Nat
  | 0 => 0
  | m + 1 => monthStart y m + monthLength y m

/-- The days of a year: those before a thirteenth month. -/
def yearLength (y : Nat) : Nat :=
  monthStart y 13

/-- The days from the first of January of the year zero to that of another year. -/
def yearStart : Nat → Nat
  | 0 => 0
  | y + 1 => yearStart y + yearLength y

namespace Date

/-- **There is such a date**, in the year zero or later. -/
structure IsReal (d : Date) : Prop where
  year_nonneg : 0 ≤ d.year
  day_pos : 1 ≤ d.day
  day_le : d.day ≤ monthLength d.year.toNat d.month

instance (d : Date) : Decidable d.IsReal :=
  decidable_of_iff (0 ≤ d.year ∧ 1 ≤ d.day ∧ d.day ≤ monthLength d.year.toNat d.month)
    ⟨fun ⟨hyear, hpos, hle⟩ => ⟨hyear, hpos, hle⟩, fun ⟨hyear, hpos, hle⟩ => ⟨hyear, hpos, hle⟩⟩

/-- The days from the first of January of the year zero to a date. -/
def count (d : Date) : Nat :=
  yearStart d.year.toNat + monthStart d.year.toNat d.month + (d.day - 1)

/-- **The days from the first of January 1970** to a date. -/
def toDays (d : Date) : Int :=
  d.count - Date.count ⟨1970, 1, 1⟩

end Date

/-! ## Years and months -/

/-- One day more in a leap year. -/
def leapDay (y : Nat) : Nat :=
  if isLeap y then 1 else 0

theorem leapDay_eq (y : Nat) : leapDay y = if y % 4 = 0 ∧ (y % 100 ≠ 0 ∨ y % 400 = 0) then 1 else 0 := by
  simp [leapDay, isLeap]

theorem monthLength_le (y m : Nat) : monthLength y m ≤ 31 := by
  unfold monthLength
  split
  · split <;> decide
  all_goals decide

theorem yearLength_eq (y : Nat) : yearLength y = 365 + leapDay y := by
  rw [yearLength]
  simp only [monthStart, monthLength, leapDay]
  split <;> rfl

/-- The days of years that begin in March, before the year `y` of them. -/
def marchStart (y : Int) : Int :=
  365 * y + y / 4 - y / 100 + y / 400

/-- **The days before a year**: a year ends where the March of the year before is 306 days old. -/
theorem yearStart_eq (y : Nat) : (yearStart y : Int) = marchStart (y - 1) + 366 := by
  induction y with
  | zero => rfl
  | succ y ih =>
    rw [yearStart, yearLength_eq, leapDay_eq, Int.natCast_add, ih, marchStart, marchStart]
    split <;> omega

/-- The first of March of a year. -/
theorem yearStart_add_leapDay (y : Nat) : (yearStart y + leapDay y : Int) = marchStart y + 1 := by
  have hnext := yearStart_eq (y + 1)
  have hyear : ((y + 1 : Nat) : Int) - 1 = y := by omega
  rw [yearStart, yearLength_eq, hyear] at hnext
  omega

/-! ## Days of an era -/

/-- A day of an era by its century, its four years in the century, its year of these, and its place in the year.  The last year
of each has one day more, unless it is the last one of a century that does not end the era. -/
theorem exists_cycles {day : Nat} (h : day < 146097) :
    ∃ c q r d, c ≤ 3 ∧ q ≤ 24 ∧ r ≤ 3 ∧ (d < 365 ∨ d = 365 ∧ r = 3 ∧ (q < 24 ∨ c = 3)) ∧
      day = 36524 * c + 1461 * q + 365 * r + d := by
  obtain ⟨c, rest, hc, hrest, hday⟩ : ∃ c rest, c ≤ 3 ∧ (rest < 36524 ∨ rest = 36524 ∧ c = 3) ∧ day = 36524 * c + rest :=
    ⟨min 3 (day / 36524), day - 36524 * min 3 (day / 36524), by omega, by omega, by omega⟩
  refine ⟨c, rest / 1461, min 3 (rest % 1461 / 365), rest % 1461 - 365 * min 3 (rest % 1461 / 365), hc, ?_⟩
  omega

/-- **The year of a day of an era.**  The days that are more than `365` for each year before it are taken away, one for each
four years, less one for each century, and one for the era. -/
theorem yearOfEra_eq {c q r d : Nat} (hc : c ≤ 3) (hq : q ≤ 24) (hr : r ≤ 3)
    (hd : d < 365 ∨ d = 365 ∧ r = 3 ∧ (q < 24 ∨ c = 3)) :
    yearOfEra (36524 * c + 1461 * q + 365 * r + d) = 100 * c + 4 * q + r := by
  generalize hday : 36524 * c + 1461 * q + 365 * r + d = day
  have hcenturies : day / 36524 = c + day / 146096 := by
    have hrest : 1461 * q + 365 * r + d < 36524 ∨ 1461 * q + 365 * r + d = 36524 ∧ c = 3 := by omega
    rcases hrest with hlt | ⟨heq, rfl⟩ <;> omega
  -- the day itself is taken away late in the last of four years, and always if it is the one that is too many
  obtain ⟨e, hfours, hone, hzero⟩ : ∃ e, day / 1460 = 25 * c + q + e ∧ (e = 0 ∨ e = 1 ∧ r = 3 ∧ 0 < d) ∧ (e = 0 → d < 365) := by
    refine ⟨day / 1460 - (25 * c + q), ?_, ?_, ?_⟩
    all_goals omega
  rw [yearOfEra, hcenturies, hfours]
  omega

theorem daysBeforeYear_eq {c q r : Nat} (hq : q ≤ 24) (hr : r ≤ 3) :
    daysBeforeYear (100 * c + 4 * q + r) = 36524 * c + 1461 * q + 365 * r := by
  rw [daysBeforeYear]
  omega

/-- Before the year zero, each year takes `365` days away at least, and the first of these takes a leap day away. -/
theorem marchStart_lt_of_neg {y : Int} (h : y < 0) : marchStart y < 365 * y := by
  have hcenturies : y / 4 ≤ y / 100 := by omega
  have heras : y / 400 < 0 := by omega
  rw [marchStart]
  omega

/-- The days before a year that begins in March are those of the eras before its era, and those of its era. -/
theorem marchStart_era (e : Int) {c q r : Nat} (hc : c ≤ 3) (hq : q ≤ 24) (hr : r ≤ 3) :
    marchStart (e * 400 + (100 * c + 4 * q + r : Nat)) = e * eraDays + (36524 * c + 1461 * q + 365 * r : Nat) := by
  have hfours : (e * 400 + (100 * c + 4 * q + r : Nat)) / 4 = 100 * e + 25 * c + q := by omega
  have hcenturies : (e * 400 + (100 * c + 4 * q + r : Nat)) / 100 = 4 * e + c := by omega
  have heras : (e * 400 + (100 * c + 4 * q + r : Nat)) / 400 = e := by omega
  rw [marchStart, hfours, hcenturies, heras, eraDays]
  omega

/-! ## Months of a year that begins in March -/

theorem daysBeforeMonth_le {d : Nat} : daysBeforeMonth ((5 * d + 2) / 153) ≤ d := by
  rw [daysBeforeMonth]
  omega

theorem lt_daysBeforeMonth_succ {d : Nat} : d < daysBeforeMonth ((5 * d + 2) / 153 + 1) := by
  rw [daysBeforeMonth]
  omega

theorem march_le {d : Nat} (h : d ≤ 365) : (5 * d + 2) / 153 ≤ 11 := by
  omega

/-- The months from March to December. -/
theorem monthStart_add_three (y : Nat) {m : Nat} (h : m < 10) :
    monthStart y (m + 3) = 59 + leapDay y + daysBeforeMonth m ∧
      monthLength y (m + 3) + daysBeforeMonth m = daysBeforeMonth (m + 1) := by
  interval_cases m
  all_goals simp [monthStart, monthLength, leapDay, daysBeforeMonth]
  all_goals split <;> rfl

namespace Date

/-- The date of a day of a year that begins in March. -/
def ofMarch (y : Int) (d : Nat) : Date :=
  let march := (5 * d + 2) / 153
  let day := d - daysBeforeMonth march + 1
  if march < 10 then ⟨y, march + 3, day⟩ else ⟨y + 1, march - 9, day⟩

/-- **The year that begins in March**, and the day in it: a year has `366` days if it ends with the February of a leap year. -/
theorem exists_ofDays_eq (n : Int) :
    ∃ y d, ofDays n = ofMarch y d ∧ n + epochShift = marchStart y + d ∧
      (d < 365 ∨ d = 365 ∧ (y + 1) % 4 = 0 ∧ ((y + 1) % 100 ≠ 0 ∨ (y + 1) % 400 = 0)) := by
  have hnonneg : 0 ≤ (n + epochShift) % eraDays := Int.emod_nonneg _ (by decide)
  have hera : (n + epochShift) % eraDays < 146097 := Int.emod_lt_of_pos _ (by decide)
  have hlt : ((n + epochShift) % eraDays).toNat < 146097 := by omega
  obtain ⟨c, q, r, d, hc, hq, hr, hd, hday⟩ := exists_cycles hlt
  have hyear : yearOfEra ((n + epochShift) % eraDays).toNat = 100 * c + 4 * q + r := by
    rw [hday, yearOfEra_eq hc hq hr hd]
  have hplace : ((n + epochShift) % eraDays).toNat - daysBeforeYear (100 * c + 4 * q + r) = d := by
    rw [hday, daysBeforeYear_eq hq hr]
    omega
  refine ⟨(n + epochShift) / eraDays * 400 + (100 * c + 4 * q + r : Nat), d, ?_, ?_, ?_⟩
  · rw [ofDays, ofMarch, hyear, hplace]
  · have hrest : (n + epochShift) % eraDays = (36524 * c + 1461 * q + 365 * r + d : Nat) := by
      rw [← hday, Int.toNat_of_nonneg hnonneg]
    calc n + epochShift
        = (n + epochShift) / eraDays * eraDays + (n + epochShift) % eraDays := (Int.ediv_mul_add_emod _ _).symm
      _ = (n + epochShift) / eraDays * eraDays + ((36524 * c + 1461 * q + 365 * r : Nat) + d) := by
        rw [hrest, Int.natCast_add _ d]
      _ = _ := by rw [marchStart_era _ hc hq hr, Int.add_assoc]
  · omega

/-- A day of the months from March to December, in a year that begins in January. -/
theorem isReal_and_count_of_march {m d : Nat} (y : Nat) (hm : m < 10) (hle : daysBeforeMonth m ≤ d)
    (hlt : d < daysBeforeMonth (m + 1)) :
    IsReal ⟨y, m + 3, d - daysBeforeMonth m + 1⟩ ∧
      (count ⟨y, m + 3, d - daysBeforeMonth m + 1⟩ : Int) = marchStart y + d + 60 := by
  obtain ⟨hmonth, hlength⟩ := monthStart_add_three y hm
  have hfirst := yearStart_add_leapDay y
  refine ⟨⟨Int.natCast_nonneg y, Nat.succ_pos _, ?_⟩, ?_⟩
  · show d - daysBeforeMonth m + 1 ≤ monthLength y (m + 3)
    omega
  · show ((yearStart y + monthStart y (m + 3) + (d - daysBeforeMonth m + 1 - 1) : Nat) : Int) = _
    omega

/-- A day of January or February, which end a year that begins in March. -/
theorem isReal_and_count_of_january {m d : Nat} (y : Nat) (hm : m = 10 ∨ m = 11) (hle : daysBeforeMonth m ≤ d)
    (hlt : d < daysBeforeMonth (m + 1)) (hlast : d < 365 + leapDay y) :
    IsReal ⟨y, m - 9, d - daysBeforeMonth m + 1⟩ ∧
      (count ⟨y, m - 9, d - daysBeforeMonth m + 1⟩ : Int) = marchStart (y - 1) + d + 60 := by
  have hfirst := yearStart_eq y
  rcases hm with rfl | rfl
  · have hbefore : daysBeforeMonth 10 = 306 ∧ daysBeforeMonth (10 + 1) = 337 := by decide
    refine ⟨⟨Int.natCast_nonneg y, Nat.succ_pos _, ?_⟩, ?_⟩
    · show d - daysBeforeMonth 10 + 1 ≤ 31
      omega
    · show ((yearStart y + 0 + (d - daysBeforeMonth 10 + 1 - 1) : Nat) : Int) = _
      omega
  · have hbefore : daysBeforeMonth 11 = 337 := by decide
    have hlength : monthLength y 2 = 28 + leapDay y := by
      rw [monthLength, leapDay]
      split <;> rfl
    refine ⟨⟨Int.natCast_nonneg y, Nat.succ_pos _, ?_⟩, ?_⟩
    · show d - daysBeforeMonth 11 + 1 ≤ monthLength y 2
      omega
    · show ((yearStart y + (0 + 0 + 31) + (d - daysBeforeMonth 11 + 1 - 1) : Nat) : Int) = _
      omega

/-- **A day of a year that begins in March** is a date that has so many days before it, from the year zero on. -/
theorem isReal_ofMarch {y : Int} {d : Nat}
    (hd : d < 365 ∨ d = 365 ∧ (y + 1) % 4 = 0 ∧ ((y + 1) % 100 ≠ 0 ∨ (y + 1) % 400 = 0)) (hstart : -60 ≤ marchStart y + d) :
    (ofMarch y d).IsReal ∧ ((ofMarch y d).count : Int) = marchStart y + d + 60 := by
  have hshort : d ≤ 365 := hd.elim Nat.le_of_lt fun hleap => Nat.le_of_eq hleap.1
  have hmarch : (5 * d + 2) / 153 ≤ 11 := march_le hshort
  have hle : daysBeforeMonth ((5 * d + 2) / 153) ≤ d := daysBeforeMonth_le
  have hlt : d < daysBeforeMonth ((5 * d + 2) / 153 + 1) := lt_daysBeforeMonth_succ
  rw [ofMarch]
  generalize (5 * d + 2) / 153 = m at *
  split
  · next hm =>
    -- the months from March to December belong to the year in which it begins
    have hyear : 0 ≤ y := by
      have hlast : daysBeforeMonth (m + 1) ≤ 306 := by
        rw [daysBeforeMonth]
        omega
      by_contra hneg
      have hless := marchStart_lt_of_neg (Int.not_le.mp hneg)
      omega
    obtain ⟨k, rfl⟩ := Int.eq_ofNat_of_zero_le hyear
    exact isReal_and_count_of_march k hm hle hlt
  · next hm =>
    -- January and February belong to the next year
    have hyear : 0 ≤ y + 1 := by
      by_contra hneg
      have hless : marchStart y < 365 * y := marchStart_lt_of_neg (by omega)
      omega
    obtain ⟨k, hk⟩ := Int.eq_ofNat_of_zero_le hyear
    obtain rfl : y = k - 1 := by omega
    have hlast : d < 365 + leapDay k := by
      rcases hd with hd | ⟨rfl, hfour, hcentury⟩
      · exact Nat.lt_add_right _ hd
      · rw [leapDay_eq, if_pos ⟨by omega, by omega⟩]
        decide
    rw [hk]
    exact isReal_and_count_of_january k (by omega) hle hlt hlast

theorem count_natCast (y m d : Nat) : count ⟨y, m, d⟩ = yearStart y + monthStart y m + (d - 1) :=
  rfl

/-- The days from the year zero to the first day of another year. -/
theorem count_newYear (y : Nat) : (count ⟨y, 1, 1⟩ : Int) = marchStart (y - 1) + 366 := by
  rw [count_natCast, ← yearStart_eq]
  rfl

/-- The days from the year zero to 1970. -/
theorem count_epoch : count ⟨1970, 1, 1⟩ = 719528 := by
  have hyear : (count ⟨1970, 1, 1⟩ : Int) = 719528 := count_newYear 1970
  omega

section

variable {n : Int}

theorem isReal_ofDays_and_count (h : -719528 ≤ n) : (ofDays n).IsReal ∧ ((ofDays n).count : Int) = n + 719528 := by
  obtain ⟨y, d, hdate, hday, hd⟩ := exists_ofDays_eq n
  have hstart : marchStart y + d = n + 719468 := hday.symm
  obtain ⟨hreal, hcount⟩ := isReal_ofMarch hd (by omega)
  rw [hdate]
  exact ⟨hreal, by omega⟩

theorem toDays_yearZero : toDays ⟨0, 1, 1⟩ = -719528 := by
  rw [toDays, count_epoch]
  rfl

theorem toDays_yearTenThousand : toDays ⟨10000, 1, 1⟩ = 2932897 := by
  have hyear : (count ⟨10000, 1, 1⟩ : Int) = 3652425 := count_newYear 10000
  rw [toDays, count_epoch, hyear]
  rfl

/-- **There is a date for every day** from the year zero on. -/
theorem isReal_ofDays (h : toDays ⟨0, 1, 1⟩ ≤ n) : (ofDays n).IsReal :=
  (isReal_ofDays_and_count (toDays_yearZero ▸ h)).1

/-- **The date of a day** has so many days before it. -/
theorem toDays_ofDays (h : toDays ⟨0, 1, 1⟩ ≤ n) : (ofDays n).toDays = n := by
  rw [toDays, (isReal_ofDays_and_count (toDays_yearZero ▸ h)).2, count_epoch]
  omega

end

/-! ## The order of dates -/

/-- The date is earlier: in an earlier year, in an earlier month of the same year, or on an earlier day of the same month. -/
def Before (a b : Date) : Prop :=
  a.year < b.year ∨ a.year = b.year ∧ (a.month < b.month ∨ a.month = b.month ∧ a.day < b.day)

theorem yearStart_mono {y y' : Nat} (h : y ≤ y') : yearStart y ≤ yearStart y' := by
  induction h with
  | refl => exact Nat.le_refl _
  | step _ ih => exact Nat.le_trans ih (Nat.le_add_right _ _)

theorem monthStart_mono (y : Nat) {m m' : Nat} (h : m ≤ m') : monthStart y m ≤ monthStart y m' := by
  induction h with
  | refl => exact Nat.le_refl _
  | step _ ih => exact Nat.le_trans ih (Nat.le_add_right _ _)

section

variable {a b : Date}

/-- Months are counted from one. -/
theorem IsReal.month_pos (h : a.IsReal) : 0 < a.month := by
  refine Nat.pos_of_ne_zero fun hzero => ?_
  have hday := Nat.le_trans h.day_pos h.day_le
  rw [hzero] at hday
  exact absurd hday (Nat.not_succ_le_zero 0)

/-- There are twelve months. -/
theorem IsReal.month_le (h : a.IsReal) : a.month ≤ 12 := by
  by_contra hlt
  obtain ⟨k, hk⟩ : ∃ k, a.month = k + 13 := ⟨a.month - 13, by omega⟩
  have hnone : monthLength a.year.toNat a.month = 0 := by
    rw [hk]
    rfl
  have hpos := Nat.le_trans h.day_pos h.day_le
  omega

theorem IsReal.day_le_31 (h : a.IsReal) : a.day ≤ 31 :=
  Nat.le_trans h.day_le (monthLength_le _ _)

/-- A date lies before the end of its month. -/
theorem IsReal.count_lt_month (h : a.IsReal) :
    a.count < yearStart a.year.toNat + monthStart a.year.toNat (a.month + 1) := by
  have hpos := h.day_pos
  have hle := h.day_le
  rw [count, monthStart]
  omega

/-- A date lies before the end of its year. -/
theorem IsReal.count_lt_year (h : a.IsReal) : a.count < yearStart (a.year.toNat + 1) := by
  have hmonth := h.count_lt_month
  have hyear : monthStart a.year.toNat (a.month + 1) ≤ monthStart a.year.toNat 13 :=
    monthStart_mono _ (Nat.succ_le_succ h.month_le)
  rw [yearStart, yearLength]
  omega

theorem yearStart_le_count (a : Date) : yearStart a.year.toNat ≤ a.count :=
  Nat.le_trans (Nat.le_add_right _ _) (Nat.le_add_right _ _)

/-- An earlier date has fewer days before it. -/
theorem count_lt_of_before (ha : a.IsReal) (h : a.Before b) : a.count < b.count := by
  rcases h with hyear | ⟨hyear, hmonth | ⟨hmonth, hday⟩⟩
  · have hnext : a.year.toNat + 1 ≤ b.year.toNat := by
      have hnonneg := ha.year_nonneg
      omega
    exact Nat.lt_of_lt_of_le ha.count_lt_year (Nat.le_trans (yearStart_mono hnext) (yearStart_le_count b))
  · have hnext : monthStart a.year.toNat (a.month + 1) ≤ monthStart a.year.toNat b.month := monthStart_mono _ hmonth
    have hlt := ha.count_lt_month
    show a.count < yearStart b.year.toNat + monthStart b.year.toNat b.month + (b.day - 1)
    rw [← hyear]
    omega
  · have hpos := ha.day_pos
    rw [count, count, hyear, hmonth]
    omega

theorem before_trichotomy (a b : Date) : a.Before b ∨ a = b ∨ b.Before a := by
  obtain ⟨y, m, d⟩ := a
  obtain ⟨y', m', d'⟩ := b
  simp only [Before, mk.injEq]
  omega

/-- **A date has fewer days before it than another one** just if it is earlier. -/
theorem count_lt_iff (ha : a.IsReal) (hb : b.IsReal) : a.count < b.count ↔ a.Before b := by
  refine ⟨fun h => ?_, count_lt_of_before ha⟩
  rcases before_trichotomy a b with hbefore | rfl | hafter
  · exact hbefore
  · exact absurd h (Nat.lt_irrefl _)
  · exact absurd h (Nat.lt_asymm (count_lt_of_before hb hafter))

/-- **The dates of days come in their order.** -/
theorem before_ofDays_iff {m n : Int} (hm : toDays ⟨0, 1, 1⟩ ≤ m) (hn : toDays ⟨0, 1, 1⟩ ≤ n) :
    (ofDays m).Before (ofDays n) ↔ m < n := by
  have hleft : (ofDays m).toDays = m := toDays_ofDays hm
  have hright : (ofDays n).toDays = n := toDays_ofDays hn
  rw [toDays] at hleft hright
  rw [← count_lt_iff (isReal_ofDays hm) (isReal_ofDays hn)]
  omega

end

end Date

end PlanBrowser.Calendar
