import PlanBrowser.Json.Read
import PlanBrowser.Json.Write
import PlanBrowser.Plan.Saved

/-!
# Plans as JSON

Every message is a record: an object with named members, or the list of the members' values in order.  Most
members may be missing and are then empty; a plan must have its id, and what is sent out must be complete.  A
visit time may be a text or a natural number, which is read as its digits.

For each kind of message there are its members, its reader and its JSON value, in which all members are
written, in order.
-/

namespace PlanBrowser

open Json (Reader field readText readFlag readWord readList readMap readValue readRecord)

/-- A list of records. -/
def Json.ofList {α : Type} (f : α → Json) (as : List α) : Json :=
  .array (as.map f)

/-! ## Plans -/

namespace VisitTime

/-- A visit time: a text, or a natural number that a word holds. -/
def read (depth : Nat) : Reader VisitTime := fun src => do
  match ← readValue depth src with
  | (.number (.natural n), src) => pure (ofNat n.toNat, src)
  | (.string s, src) => pure (⟨s⟩, src)
  | _ => throw .shape

/-- A visit time is written as a text. -/
def toJson (t : VisitTime) : Json :=
  .string t.text

end VisitTime

namespace Stop

/-- The members of a visited place. -/
def fields : List (Json.Field Stop) :=
  [field "id" false (fun _ => readText) fun a s => { s with id := a },
    field "place_name" false (fun _ => readText) fun a s => { s with name := a },
    field "address" false (fun _ => readText) fun a s => { s with address := a },
    field "url" false (fun _ => readText) fun a s => { s with link := a },
    field "start_time" false VisitTime.read fun a s => { s with start := a },
    field "end_time" false VisitTime.read fun a s => { s with finish := a },
    field "place_icon_css_class" false (fun _ => readText) fun a s => { s with icon := a }]

/-- Reads a visited place. -/
def read : Nat → Reader Stop :=
  readRecord fields blank

/-- A visited place as JSON. -/
def toJson (s : Stop) : Json :=
  .object [("id", .string s.id), ("place_name", .string s.name), ("address", .string s.address),
    ("url", .string s.link), ("start_time", s.start.toJson), ("end_time", s.finish.toJson),
    ("place_icon_css_class", .string s.icon)]

end Stop

namespace Plan

/-- The members of a plan. -/
def fields : List (Json.Field Plan) :=
  [field "id" true (fun _ => readText) fun a p => { p with id := a },
    field "places" false (readList Stop.read) fun a p => { p with stops := a },
    field "saved" false (fun _ => readFlag) fun a p => { p with saved := a },
    field "planning_spec" false readValue fun a p => { p with spec := a }]

/-- Reads a plan. -/
def read : Nat → Reader Plan :=
  readRecord fields (named "")

/-- A plan as JSON. -/
def toJson (p : Plan) : Json :=
  .object [("id", .string p.id), ("places", .ofList Stop.toJson p.stops), ("saved", .bool p.saved),
    ("planning_spec", p.spec)]

end Plan

namespace Batch

/-- The members of a batch. -/
def fields : List (Json.Field Batch) :=
  [field "travel_plans" false (readList Plan.read) fun a b => { b with plans := a },
    field "trip_details_url" false (readList fun _ => readText) fun a b => { b with detailLinks := a },
    field "travel_destination" false (fun _ => readText) fun a b => { b with destination := a }]

/-- Reads a batch. -/
def read : Nat → Reader Batch :=
  readRecord fields empty

/-- A batch as JSON. -/
def toJson (b : Batch) : Json :=
  .object [("travel_plans", .ofList Plan.toJson b.plans),
    ("trip_details_url", .ofList .string b.detailLinks), ("travel_destination", .string b.destination)]

end Batch

/-! ## What is sent about a plan -/

namespace SavedStop

/-- The members of a saved place. -/
def fields : List (Json.Field SavedStop) :=
  [field "id" false (fun _ => readText) fun a s => { s with id := a },
    field "time_period" false (fun _ => readText) fun a s => { s with period := a },
    field "place_name" false (fun _ => readText) fun a s => { s with name := a },
    field "address" false (fun _ => readText) fun a s => { s with address := a },
    field "url" false (fun _ => readText) fun a s => { s with link := a }]

/-- Reads a saved place. -/
def read : Nat → Reader SavedStop :=
  readRecord fields blank

/-- A saved place as JSON. -/
def toJson (s : SavedStop) : Json :=
  .object [("id", .string s.id), ("time_period", .string s.period), ("place_name", .string s.name),
    ("address", .string s.address), ("url", .string s.link)]

end SavedStop

namespace SaveRequest

/-- The members of a request to save a plan. -/
def fields : List (Json.Field SaveRequest) :=
  [field "destination" true (fun _ => readText) fun a r => { r with destination := a },
    field "travel_date" true (fun _ => readText) fun a r => { r with date := a },
    field "original_plan_id" true (fun _ => readText) fun a r => { r with planId := a },
    field "created_at" true (fun _ => readText) fun a r => { r with createdAt := a },
    field "places" true (readList SavedStop.read) fun a r => { r with stops := a }]

/-- Reads a request to save a plan. -/
def read : Nat → Reader SaveRequest :=
  readRecord fields ⟨"", "", "", "", []⟩

/-- A request to save a plan as JSON. -/
def toJson (r : SaveRequest) : Json :=
  .object [("destination", .string r.destination), ("travel_date", .string r.date),
    ("original_plan_id", .string r.planId), ("created_at", .string r.createdAt),
    ("places", .ofList SavedStop.toJson r.stops)]

end SaveRequest

namespace Feedback

/-- The members of a feedback. -/
def fields : List (Json.Field Feedback) :=
  [field "plan_id" true (fun _ => readText) fun a f => { f with planId := a },
    field "plan_spec" true readValue fun a f => { f with spec := a }]

/-- Reads a feedback. -/
def read : Nat → Reader Feedback :=
  readRecord fields ⟨"", .null⟩

/-- A feedback as JSON. -/
def toJson (f : Feedback) : Json :=
  .object [("plan_id", .string f.planId), ("plan_spec", f.spec)]

end Feedback

namespace SummaryRequest

/-- The members of a request for a summary. -/
def fields : List (Json.Field SummaryRequest) :=
  [field "plan_id" true (fun _ => readText) fun a _ => ⟨a⟩]

/-- Reads a request for a summary. -/
def read : Nat → Reader SummaryRequest :=
  readRecord fields ⟨""⟩

/-- A request for a summary as JSON. -/
def toJson (r : SummaryRequest) : Json :=
  .object [("plan_id", .string r.planId)]

end SummaryRequest

namespace Summary

/-- The members of a summary. -/
def fields : List (Json.Field Summary) :=
  [field "message" false (fun _ => readText) fun a _ => ⟨a⟩]

/-- Reads a summary. -/
def read : Nat → Reader Summary :=
  readRecord fields ⟨""⟩

/-- A summary as JSON. -/
def toJson (s : Summary) : Json :=
  .object [("message", .string s.message)]

end Summary

/-! ## A user's profile -/

namespace SavedPlan

/-- The members of a saved plan. -/
def fields : List (Json.Field SavedPlan) :=
  [field "id" false (fun _ => readText) fun a p => { p with id := a },
    field "original_plan_id" false (fun _ => readText) fun a p => { p with planId := a },
    field "destination" false (fun _ => readText) fun a p => { p with destination := a },
    field "travel_date" false (fun _ => readText) fun a p => { p with date := a },
    field "places" false (readList SavedStop.read) fun a p => { p with stops := a }]

/-- Reads a saved plan. -/
def read : Nat → Reader SavedPlan :=
  readRecord fields blank

/-- A saved plan as JSON. -/
def toJson (p : SavedPlan) : Json :=
  .object [("id", .string p.id), ("original_plan_id", .string p.planId),
    ("destination", .string p.destination), ("travel_date", .string p.date),
    ("places", .ofList SavedStop.toJson p.stops)]

end SavedPlan

namespace SavedPlans

/-- The members of a list of saved plans. -/
def fields : List (Json.Field SavedPlans) :=
  [field "travel_plans" false (readList SavedPlan.read) fun a _ => ⟨a⟩]

/-- Reads a list of saved plans. -/
def read : Nat → Reader SavedPlans :=
  readRecord fields ⟨[]⟩

/-- A list of saved plans as JSON. -/
def toJson (s : SavedPlans) : Json :=
  .object [("travel_plans", .ofList SavedPlan.toJson s.plans)]

end SavedPlans

namespace SearchCount

/-- The members of a search count. -/
def fields : List (Json.Field SearchCount) :=
  [field "location" false (fun _ => readText) fun a c => { c with location := a },
    field "count" false (fun _ => readWord) fun a c => { c with count := a }]

/-- Reads a search count. -/
def read : Nat → Reader SearchCount :=
  readRecord fields blank

/-- A search count as JSON. -/
def toJson (c : SearchCount) : Json :=
  .object [("location", .string c.location), ("count", .number (.natural c.count))]

end SearchCount

namespace Favorites

/-- The members of a user's searches. -/
def fields : List (Json.Field Favorites) :=
  [field "searchHistory" false (readMap SearchCount.read) fun a _ => ⟨a⟩]

/-- Reads a user's searches. -/
def read : Nat → Reader Favorites :=
  readRecord fields ⟨.empty⟩

/-- A user's searches as JSON. -/
def toJson (f : Favorites) : Json :=
  .object [("searchHistory", .object (f.searches.entries.map fun (key, c) => (key, c.toJson)))]

end Favorites

end PlanBrowser
