import PlanBrowser.Page.Document
import PlanBrowser.Plan.Wire
import PlanBrowser.Session.Basic

/-!
# What a session shows

A session can be shown as the results page or as data.  Both show the same plans with the same controls.

* `Session.document` — the results page;
* `Snapshot` — the data, and `Snapshot.toJson`, its JSON value;
* `Session.snapshot` — the data of a session.
-/

namespace PlanBrowser

namespace Session

/-- The destination in the title: the planner's, or else the location that was searched for. -/
def title (s : Session) : String :=
  match s.batch with
  | some b => if b.destination = "" then s.search.location else b.destination
  | none => s.search.location

/-- **The results page.** -/
def document (s : Session) : String :=
  resultsPage s.title s.user (s.shownFragments.map (·.html)) s.moreVisible

end Session

/-- Whether there is more to show, as JSON. -/
def LoadState.toJson : LoadState → Json
  | exhausted => .string "exhausted"
  | more busy => .object [("has_more", .object [("busy", .bool busy)])]

/-- A shown plan, as data. -/
structure ShownPlan where
  index : Nat
  detailLink : String
  controls : Controls
  saveError : Option String
  plan : Plan

/-- A shown plan as JSON. -/
def ShownPlan.toJson (p : ShownPlan) : Json :=
  .object [("index", .count p.index), ("details_url", .string p.detailLink),
    ("controls", p.controls.toJson), ("save_error", .ofOption p.saveError),
    ("plan", p.plan.toJson)]

/-- What a session shows, as data. -/
structure Snapshot where
  destination : String
  location : String
  date : String
  user : String
  count : Nat
  available : Nat
  shown : Nat
  loadState : LoadState
  plans : List ShownPlan

/-- A snapshot as JSON. -/
def Snapshot.toJson (s : Snapshot) : Json :=
  .object [("destination", .string s.destination), ("location", .string s.location),
    ("date", .string s.date), ("username", .string s.user), ("number_results", .count s.count),
    ("cached_plans", .count s.available), ("displayed_plans", .count s.shown),
    ("load_more", s.loadState.toJson), ("plans", .ofList ShownPlan.toJson s.plans)]

namespace Session

/-- A shown plan of a session, as data. -/
def shownPlanData? (s : Session) (i : Nat) : Option ShownPlan :=
  match s.plan? i, s.controls[i]? with
  | some p, some controls => some ⟨i, s.detailLink i, controls, s.saveError? i, p⟩
  | _, _ => none

/-- **The data of a session.** -/
def snapshot (s : Session) : Snapshot :=
  { destination := (s.batch.map (·.destination)).getD ""
    location := s.search.location
    date := s.search.date
    user := s.user
    count := s.search.count
    available := s.available
    shown := s.shown
    loadState := s.loadState
    plans := (List.range s.visible).filterMap s.shownPlanData? }

end Session

end PlanBrowser
