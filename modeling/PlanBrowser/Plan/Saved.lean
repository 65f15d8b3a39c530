import PlanBrowser.Calendar.Instant
import PlanBrowser.Plan.Basic
import PlanBrowser.Text.KeyMap

/-!
# Saved plans, feedback and summaries

What is sent about a plan and what comes back about a user.

* `SaveRequest` — a plan to be saved, together with the search that found it;
* `SaveRequest.ofPlan` — that request for a plan;
* `Feedback`, `SummaryRequest`, `Summary` — the other two things that can be asked about a plan;
* `SavedPlan`, `SavedPlans` — the plans of a user's profile;
* `Favorites` — a user's searches, and `Favorites.mostSearched`, the place searched for most often.
-/

namespace PlanBrowser

/-- A visited place of a saved plan. -/
structure SavedStop where
  id : String
  period : String
  name : String
  address : String
  link : String
  deriving Repr, DecidableEq, Inhabited

/-- A saved place of which nothing is known. -/
def SavedStop.blank : SavedStop :=
  ⟨"", "", "", "", ""⟩

/-- A visited place as it is saved. -/
def SavedStop.ofStop (s : Stop) : SavedStop :=
  ⟨s.id, s.period, s.name, s.address, s.link⟩

/-- A plan to be saved, together with the search that found it. -/
structure SaveRequest where
  destination : String
  date : String
  planId : String
  createdAt : String
  stops : List SavedStop
  deriving Repr, DecidableEq, Inhabited

/-- The request to save a plan that was found for a destination and a date. -/
def SaveRequest.ofPlan (plan : Plan) (destination date : String) (now : Calendar.Instant) :
    SaveRequest :=
  ⟨destination, date, plan.id, now.timestamp, plan.stops.map SavedStop.ofStop⟩

/-- Negative feedback on a plan, with what the planner had been asked for. -/
structure Feedback where
  planId : String
  spec : Json
  deriving Repr, Inhabited

/-- The feedback on a plan. -/
def Feedback.ofPlan (plan : Plan) : Feedback :=
  ⟨plan.id, plan.spec⟩

/-- The request for a summary of a plan. -/
structure SummaryRequest where
  planId : String
  deriving Repr, DecidableEq, Inhabited

/-- A summary of a plan. -/
structure Summary where
  message : String
  deriving Repr, DecidableEq, Inhabited

/-- A plan in a user's profile. -/
structure SavedPlan where
  id : String
  planId : String
  destination : String
  date : String
  stops : List SavedStop
  deriving Repr, DecidableEq, Inhabited

/-- A saved plan of which nothing is known. -/
def SavedPlan.blank : SavedPlan :=
  ⟨"", "", "", "", []⟩

/-- The plans of a user's profile. -/
structure SavedPlans where
  plans : List SavedPlan
  deriving Repr, DecidableEq, Inhabited

/-! ## Favorites -/

/-- How often a place was searched for. -/
structure SearchCount where
  location : String
  count : UInt64
  deriving Repr, DecidableEq, Inhabited

/-- A place that was never searched for. -/
def SearchCount.blank : SearchCount :=
  ⟨"", 0⟩

/-- A user's searches. -/
structure Favorites where
  searches : OrderedMap SearchCount
  deriving Repr, DecidableEq, Inhabited

/-- The more frequent of two searches, the earlier one when both are equally frequent; a search that was
never made does not count. -/
def SearchCount.prefer (best : Option SearchCount) (next : SearchCount) : Option SearchCount :=
  match best with
  | none => if 0 < next.count then some next else none
  | some b => if b.count < next.count then some next else some b

/-- **The place searched for most often**, the first one of those searched for equally often. -/
def Favorites.mostSearched (f : Favorites) : Option String :=
  ((f.searches.entries.map (·.2)).foldl SearchCount.prefer none).map (·.location)

end PlanBrowser
