import PlanBrowser.Plan.Saved
import PlanBrowser.Proofs.Calendar.Count
import PlanBrowser.Proofs.Calendar.Padded
import PlanBrowser.Proofs.Text.ByteOrder

/-!
# Timestamps

A timestamp is read strictly: `YYYY-MM-DDTHH:MM:SS.mmmZ`, every number in its width, for a date that there is and a time
that a day has.  What is read is a count of milliseconds, by way of the days that lie before the date.

* `moment?` — **reading a timestamp**, from `mark?`, `date?` and `time?`;
* `Instant.Plain`, `Instant.millis` — the instants of the years from `0` to `9999`, and their milliseconds;
* `momentText`, `Instant.stamp_eq` — the timestamp of an instant is the text of its milliseconds;
* `moment?_momentText` — **the text of a moment is read back**;
* `dateText_append_lt_iff`, `timeText_append_lt_iff` — dates and times come in the order of their texts;
* `momentText_lt_iff` — **so do moments**;
* `created_at_faithful` — what the request to save a plan says about when it was made.
-/

namespace PlanBrowser.Calendar

/-! ## Reading -/

/-- A mark that must come next, and what follows it. -/
def mark? (m : Char) : List Char → Option (List Char)
  | [] => none
  | c :: cs => if c = m then some cs else none

/-- **Reading a date** `YYYY-MM-DD` that there is. -/
def date? (cs : List Char) : Option (Date × List Char) := do
  let (year, cs) ← number? 4 cs
  let cs ← mark? '-' cs
  let (month, cs) ← number? 2 cs
  let cs ← mark? '-' cs
  let (day, cs) ← number? 2 cs
  if Date.IsReal ⟨year, month, day⟩ then some (⟨year, month, day⟩, cs) else none

/-- **Reading a time** `HH:MM:SS.mmm` of a day, in milliseconds. -/
def time? (cs : List Char) : Option (Nat × List Char) := do
  let (hour, cs) ← number? 2 cs
  let cs ← mark? ':' cs
  let (minute, cs) ← number? 2 cs
  let cs ← mark? ':' cs
  let (second, cs) ← number? 2 cs
  let cs ← mark? '.' cs
  let (milli, cs) ← number? 3 cs
  if hour < 24 ∧ minute < 60 ∧ second < 60 then some (((hour * 60 + minute) * 60 + second) * 1000 + milli, cs) else none

/-- **Reading a timestamp** `YYYY-MM-DDTHH:MM:SS.mmmZ` and nothing else, in milliseconds since the first of January 1970. -/
def moment? (cs : List Char) : Option Int := do
  let (date, cs) ← date? cs
  let cs ← mark? 'T' cs
  let (time, cs) ← time? cs
  let cs ← mark? 'Z' cs
  if cs = [] then some (date.toDays * 86400000 + time) else none

/-! ## Instants -/

/-- An instant of the years from `0` to `9999`, in a second of the usual length. -/
structure Instant.Plain (t : Instant) : Prop where
  yearZero_le : Date.toDays ⟨0, 1, 1⟩ * 86400 ≤ t.seconds
  lt_yearTenThousand : t.seconds < Date.toDays ⟨10000, 1, 1⟩ * 86400
  nanos_lt : t.nanos < 1000000000

theorem Instant.plain_iff {t : Instant} :
    t.Plain ↔ -62167219200 ≤ t.seconds ∧ t.seconds < 253402300800 ∧ t.nanos < 1000000000 := by
  have hfirst : Date.toDays ⟨0, 1, 1⟩ * 86400 = -62167219200 := by
    rw [Date.toDays_yearZero]
    rfl
  have hlast : Date.toDays ⟨10000, 1, 1⟩ * 86400 = 253402300800 := by
    rw [Date.toDays_yearTenThousand]
    rfl
  constructor
  · rintro ⟨hle, hlt, hnanos⟩
    exact ⟨hfirst ▸ hle, hlast ▸ hlt, hnanos⟩
  · rintro ⟨hle, hlt, hnanos⟩
    exact ⟨hfirst ▸ hle, hlast ▸ hlt, hnanos⟩

/-- The milliseconds since the first of January 1970, **rounded down**. -/
def Instant.millis (t : Instant) : Int :=
  (t.seconds * 1000000000 + t.nanos) / 1000000

/-! ## Texts of dates and times -/

/-- The text of a date. -/
def dateText (d : Date) : List Char :=
  padded 4 d.year.toNat ++ '-' :: (padded 2 d.month ++ '-' :: padded 2 d.day)

/-- The text of a time of a day, given in milliseconds. -/
def timeText (ms : Nat) : List Char :=
  padded 2 (ms / 3600000) ++ ':' ::
    (padded 2 (ms / 60000 % 60) ++ ':' :: (padded 2 (ms / 1000 % 60) ++ '.' :: padded 3 (ms % 1000)))

/-- **The text of a moment**, given in milliseconds since the first of January 1970. -/
def momentText (m : Int) : List Char :=
  dateText (Date.ofDays (m / 86400000)) ++ 'T' :: (timeText (m % 86400000).toNat ++ ['Z'])

theorem mark?_cons (m : Char) (cs : List Char) : mark? m (m :: cs) = some cs :=
  if_pos rfl

/-- A date whose year has four digits at most. -/
structure Date.IsShort (d : Date) : Prop extends d.IsReal where
  year_lt : d.year < 10000

section

variable {a b : Date} {as bs rest : List Char}

theorem Date.IsShort.widths (h : a.IsShort) : a.year.toNat < 10 ^ 4 ∧ a.month < 10 ^ 2 ∧ a.day < 10 ^ 2 := by
  have hyear := h.year_lt
  have hmonth := h.month_le
  have hday := h.day_le_31
  omega

/-- A year of four digits is written without a sign. -/
theorem Date.IsShort.yearDigits_eq (h : a.IsShort) : yearDigits a.year = padded 4 a.year.toNat := by
  have hnonneg := h.year_nonneg
  have hlt := h.year_lt
  have hsame : a.year.natAbs = a.year.toNat := by omega
  rw [yearDigits, if_neg (by omega), if_neg (by omega), hsame]

/-- **The text of a date is read back.** -/
theorem date?_dateText (h : a.IsShort) (rest : List Char) : date? (dateText a ++ rest) = some (a, rest) := by
  obtain ⟨hyear, hmonth, hday⟩ := h.widths
  have hdate : (⟨a.year.toNat, a.month, a.day⟩ : Date) = a := by rw [Int.toNat_of_nonneg h.year_nonneg]
  simp only [date?, dateText, List.append_assoc, List.cons_append, number?_padded (Nat.succ_pos _) hyear,
    number?_padded (Nat.succ_pos _) hmonth, number?_padded (Nat.succ_pos _) hday, mark?_cons, Option.bind_eq_bind,
    Option.bind_some]
  rw [hdate, if_pos h.toIsReal]

/-- **Dates come in the order of their texts**, with any text behind them. -/
theorem dateText_append_lt_iff (ha : a.IsShort) (hb : b.IsShort) :
    dateText a ++ as < dateText b ++ bs ↔ a.Before b ∨ a = b ∧ as < bs := by
  obtain ⟨hyear, hmonth, hday⟩ := ha.widths
  obtain ⟨hyear', hmonth', hday'⟩ := hb.widths
  have hnonneg := ha.year_nonneg
  have hnonneg' := hb.year_nonneg
  simp only [dateText, List.append_assoc, List.cons_append, padded_append_lt_iff (Nat.succ_pos _) hyear hyear',
    padded_append_lt_iff (Nat.succ_pos _) hmonth hmonth', padded_append_lt_iff (Nat.succ_pos _) hday hday', List.cons_lt_cons_self]
  obtain ⟨y, m, d⟩ := a
  obtain ⟨y', m', d'⟩ := b
  simp only [Date.Before, Date.mk.injEq] at *
  by_cases hrest : as < bs
  all_goals
    simp only [hrest, and_true, and_false, or_false]
    omega

end

section

variable {m n : Nat} {as bs : List Char}

theorem timeText_widths (h : n < 86400000) :
    n / 3600000 < 10 ^ 2 ∧ n / 60000 % 60 < 10 ^ 2 ∧ n / 1000 % 60 < 10 ^ 2 ∧ n % 1000 < 10 ^ 3 := by
  omega

/-- **The text of a time is read back.** -/
theorem time?_timeText (h : n < 86400000) (rest : List Char) : time? (timeText n ++ rest) = some (n, rest) := by
  obtain ⟨hhour, hminute, hsecond, hmilli⟩ := timeText_widths h
  simp only [time?, timeText, List.append_assoc, List.cons_append, number?_padded (Nat.succ_pos _) hhour,
    number?_padded (Nat.succ_pos _) hminute, number?_padded (Nat.succ_pos _) hsecond, number?_padded (Nat.succ_pos _) hmilli,
    mark?_cons, Option.bind_eq_bind, Option.bind_some]
  have htotal : ((n / 3600000 * 60 + n / 60000 % 60) * 60 + n / 1000 % 60) * 1000 + n % 1000 = n := by omega
  rw [htotal, if_pos (by omega)]

/-- **Times come in the order of their texts**, with any text behind them. -/
theorem timeText_append_lt_iff (hm : m < 86400000) (hn : n < 86400000) :
    timeText m ++ as < timeText n ++ bs ↔ m < n ∨ m = n ∧ as < bs := by
  obtain ⟨hhour, hminute, hsecond, hmilli⟩ := timeText_widths hm
  obtain ⟨hhour', hminute', hsecond', hmilli'⟩ := timeText_widths hn
  simp only [timeText, List.append_assoc, List.cons_append, padded_append_lt_iff (Nat.succ_pos _) hhour hhour',
    padded_append_lt_iff (Nat.succ_pos _) hminute hminute', padded_append_lt_iff (Nat.succ_pos _) hsecond hsecond',
    padded_append_lt_iff (Nat.succ_pos _) hmilli hmilli', List.cons_lt_cons_self]
  by_cases hrest : as < bs
  all_goals
    simp only [hrest, and_true, and_false, or_false]
    omega

end

/-! ## Moments -/

/-- A moment of the years from `0` to `9999`. -/
structure InFourDigitYears (m : Int) : Prop where
  yearZero_le : Date.toDays ⟨0, 1, 1⟩ * 86400000 ≤ m
  lt_yearTenThousand : m < Date.toDays ⟨10000, 1, 1⟩ * 86400000

/-- The dates of four digits of the year are those before the year `10000`. -/
theorem Date.isShort_ofDays {n : Int} (hle : toDays ⟨0, 1, 1⟩ ≤ n) (hlt : n < toDays ⟨10000, 1, 1⟩) : (ofDays n).IsShort := by
  have hreal : (ofDays n).IsReal := isReal_ofDays hle
  have hcount : (ofDays n).toDays = n := toDays_ofDays hle
  have hbefore : (ofDays n).Before ⟨10000, 1, 1⟩ := by
    rw [← count_lt_iff hreal (by decide)]
    rw [toDays] at hcount hlt
    omega
  refine ⟨hreal, ?_⟩
  rcases hbefore with hyear | ⟨-, hmonth | ⟨-, hday⟩⟩
  · exact hyear
  · exact absurd hreal.month_pos (Nat.not_lt.mpr (Nat.le_of_lt_succ hmonth))
  · exact absurd hreal.day_pos (Nat.not_le.mpr hday)

section

variable {m n : Int}

theorem InFourDigitYears.day (h : InFourDigitYears m) :
    Date.toDays ⟨0, 1, 1⟩ ≤ m / 86400000 ∧ m / 86400000 < Date.toDays ⟨10000, 1, 1⟩ := by
  have hle := h.yearZero_le
  have hlt := h.lt_yearTenThousand
  omega

theorem InFourDigitYears.isShort (h : InFourDigitYears m) : (Date.ofDays (m / 86400000)).IsShort :=
  Date.isShort_ofDays h.day.1 h.day.2

theorem timeOfDay_lt (m : Int) : (m % 86400000).toNat < 86400000 := by
  omega

/-- **The text of a moment is read back.** -/
theorem moment?_momentText (h : InFourDigitYears m) : moment? (momentText m) = some m := by
  have hdays : (Date.ofDays (m / 86400000)).toDays = m / 86400000 := Date.toDays_ofDays h.day.1
  simp only [moment?, momentText, date?_dateText h.isShort, time?_timeText (timeOfDay_lt m), mark?_cons, Option.bind_eq_bind,
    Option.bind_some]
  have htotal : m / 86400000 * 86400000 + ((m % 86400000).toNat : Int) = m := by omega
  rw [if_pos trivial, hdays, htotal]

/-- **Moments come in the order of their texts.** -/
theorem momentText_lt_iff (hm : InFourDigitYears m) (hn : InFourDigitYears n) : momentText m < momentText n ↔ m < n := by
  have hbefore := Date.before_ofDays_iff hm.day.1 hn.day.1
  have hsame : Date.ofDays (m / 86400000) = Date.ofDays (n / 86400000) ↔ m / 86400000 = n / 86400000 := by
    refine ⟨fun heq => ?_, fun heq => by rw [heq]⟩
    rw [← Date.toDays_ofDays hm.day.1, heq, Date.toDays_ofDays hn.day.1]
  rw [momentText, momentText, dateText_append_lt_iff hm.isShort hn.isShort, List.cons_lt_cons_self,
    timeText_append_lt_iff (timeOfDay_lt m) (timeOfDay_lt n), hbefore, hsame]
  simp only [List.lt_irrefl, and_false, or_false]
  omega

theorem momentText_eq_iff (hm : InFourDigitYears m) (hn : InFourDigitYears n) : momentText m = momentText n ↔ m = n := by
  refine ⟨fun heq => ?_, fun heq => by rw [heq]⟩
  have hread := moment?_momentText hm
  rw [heq, moment?_momentText hn] at hread
  exact (Option.some.inj hread).symm

end

/-! ## Timestamps of instants -/

section

variable {t : Instant}

theorem Instant.Plain.inFourDigitYears (h : t.Plain) : InFourDigitYears t.millis := by
  have hle := h.yearZero_le
  have hlt := h.lt_yearTenThousand
  have hnanos := h.nanos_lt
  constructor <;> rw [Instant.millis] <;> omega

/-- **The timestamp of an instant** is the text of its milliseconds. -/
theorem Instant.stamp_eq (h : t.Plain) : t.stamp = momentText t.millis := by
  have hnanos := h.nanos_lt
  have hday : t.millis / 86400000 = t.day := by
    rw [Instant.millis, Instant.day]
    omega
  obtain ⟨ms, hms⟩ : ∃ ms, (t.millis % 86400000).toNat = ms := ⟨_, rfl⟩
  have htime : ms = t.secondOfDay * 1000 + t.nanos / 1000000 := by
    rw [← hms, Instant.millis, Instant.secondOfDay]
    omega
  have hhour : ms / 3600000 = t.secondOfDay / 3600 := by omega
  have hminute : ms / 60000 % 60 = t.secondOfDay / 60 % 60 := by omega
  have hsecond : ms / 1000 % 60 = t.secondOfDay % 60 + t.nanos / 1000000000 := by omega
  have hmilli : ms % 1000 = t.nanos % 1000000000 / 1000000 := by omega
  have hshort : (Date.ofDays t.day).IsShort := hday ▸ h.inFourDigitYears.isShort
  rw [momentText, hday, hms, dateText, timeText, hhour, hminute, hsecond, hmilli, Instant.stamp, hshort.yearDigits_eq]
  simp only [List.append_assoc, List.cons_append]

end

/-- **When a plan is saved.**  The text that the request has for it is read as the instant, rounded down to the millisecond;
and the bytes of two such texts come in the order of what is read. -/
theorem created_at_faithful {t t' : Instant} (h : t.Plain) (h' : t'.Plain) (plan plan' : Plan)
    (destination destination' date date' : String) :
    moment? (SaveRequest.ofPlan plan destination date t).createdAt.toList = some t.millis ∧
      (Text.Utf8.bytesOf (SaveRequest.ofPlan plan destination date t).createdAt <
          Text.Utf8.bytesOf (SaveRequest.ofPlan plan' destination' date' t').createdAt ↔ t.millis < t'.millis) ∧
      (Text.Utf8.bytesOf (SaveRequest.ofPlan plan destination date t).createdAt =
          Text.Utf8.bytesOf (SaveRequest.ofPlan plan' destination' date' t').createdAt ↔ t.millis = t'.millis) := by
  have htext {t : Instant} (h : t.Plain) : t.timestamp.toList = momentText t.millis := by
    rw [Instant.timestamp, String.toList_ofList, Instant.stamp_eq h]
  refine ⟨?_, ?_, ?_⟩
  · show moment? t.timestamp.toList = some t.millis
    rw [htext h, moment?_momentText h.inFourDigitYears]
  · show Text.Utf8.encode t.timestamp.toList < Text.Utf8.encode t'.timestamp.toList ↔ _
    rw [htext h, htext h', Text.Utf8.encode_lt_iff, momentText_lt_iff h.inFourDigitYears h'.inFourDigitYears]
  · show Text.Utf8.encode t.timestamp.toList = Text.Utf8.encode t'.timestamp.toList ↔ _
    rw [Text.Utf8.encode_inj, htext h, htext h', momentText_eq_iff h.inFourDigitYears h'.inFourDigitYears]

/-- The last millisecond before 1970, and the leap day of the year 2000. -/
theorem created_at_faithful_of_1969 :
    moment? (SaveRequest.ofPlan default "Lisbon" "" ⟨-1, 999999999⟩).createdAt.toList = some (-1) ∧
      Text.Utf8.bytesOf (SaveRequest.ofPlan default "Lisbon" "" ⟨-1, 999999999⟩).createdAt <
        Text.Utf8.bytesOf (SaveRequest.ofPlan default "Porto" "" ⟨951782400, 0⟩).createdAt := by
  have hbefore : Instant.Plain ⟨-1, 999999999⟩ := Instant.plain_iff.mpr (by decide)
  have hleap : Instant.Plain ⟨951782400, 0⟩ := Instant.plain_iff.mpr (by decide)
  obtain ⟨hread, hlt, -⟩ := created_at_faithful hbefore hleap default default "Lisbon" "Porto" "" ""
  exact ⟨hread, hlt.mpr (by decide)⟩

end PlanBrowser.Calendar
