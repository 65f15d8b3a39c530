import PlanBrowser.Json.Value
import PlanBrowser.Plan.VisitTime

/-!
# Travel plans

A **plan** is a day of travel: the places it visits, in order, and the search that it was made for, which is
kept as it came and sent back with feedback.  The plans of one search arrive together as a **batch**, with a
link to the details of each.

* `Stop` — a visited place, with the time of the visit;
* `Plan` — a plan;
* `Batch` — the plans found by one search;
* `Batch.detailLink` — the link to the details of a plan, empty where there is none.
-/

namespace PlanBrowser

/-- A place that a plan visits. -/
structure Stop where
  id : String
  name : String
  address : String
  link : String
  start : VisitTime
  finish : VisitTime
  /-- The style class of the icon that stands for the kind of place. -/
  icon : String
  deriving Repr, Inhabited

/-- A place of which nothing is known. -/
def Stop.blank : Stop :=
  ⟨"", "", "", "", .absent, .absent, ""⟩

/-- The time of a visit, from start to end, both as they were given. -/
def Stop.period (s : Stop) : String :=
  s.start.text ++ " - " ++ s.finish.text

/-- A travel plan. -/
structure Plan where
  id : String
  stops : List Stop
  /-- The user has saved this plan already. -/
  saved : Bool
  /-- What the planner was asked for; sent back with feedback, and never looked into. -/
  spec : Json
  deriving Repr, Inhabited

/-- A plan of which nothing but its id is known. -/
def Plan.named (id : String) : Plan :=
  ⟨id, [], false, .null⟩

/-- The plans found by one search. -/
structure Batch where
  plans : List Plan
  detailLinks : List String
  destination : String
  deriving Repr, Inhabited

namespace Batch

/-- No plans. -/
def empty : Batch := ⟨[], [], ""⟩

/-- The number of plans. -/
def size (b : Batch) : Nat :=
  b.plans.length

/-- The link to the details of a plan. -/
def detailLink (b : Batch) (i : Nat) : String :=
  b.detailLinks[i]?.getD ""

end Batch

end PlanBrowser
