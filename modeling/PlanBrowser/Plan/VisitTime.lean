import PlanBrowser.Text.Blank
import PlanBrowser.Text.Numeral

/-!
# Visit times

The start or the end of a visit.  A planner gives a bare hour, a saved plan gives a text; either is kept as
the text that was given, so that it goes into saved plans unchanged.  Only when a time is shown is a whole
hour recognised.

* `VisitTime` — a time, as it was given;
* `VisitTime.hour?` — the whole hour that it names, up to twenty-four;
* `VisitTime.shown` — a whole hour as `HH:00`, everything else as it was given.
-/

namespace PlanBrowser

/-- The start or the end of a visit, as it was given. -/
structure VisitTime where
  text : String
  deriving Repr, DecidableEq, Inhabited

namespace VisitTime

/-- No time given. -/
def absent : VisitTime := ⟨""⟩

/-- A time given as a number. -/
def ofNat (n : Nat) : VisitTime := ⟨Text.written n⟩

/-- The last hour of a day. -/
def lastHour : Nat := 24

/-- The whole hour that a time names: a numeral of one byte, between blanks, up to twenty-four. -/
def hour? (t : VisitTime) : Option Nat :=
  match Text.read? 256 (Text.trimChars t.text.toList) with
  | some h => if h ≤ lastHour then some h else none
  | none => none

/-- A whole hour on a clock face. -/
def clock (h : Nat) : List Char :=
  (if h < 10 then '0' :: Text.digits h else Text.digits h) ++ [':', '0', '0']

/-- **What is shown** for a time. -/
def shown (t : VisitTime) : String :=
  match t.hour? with
  | some h => String.ofList (clock h)
  | none => t.text

end VisitTime

end PlanBrowser
