import PlanBrowser.Api.Client
import PlanBrowser.Page.Document
import PlanBrowser.Page.SavedCard

/-!
# The profile of a user

A profile lists the plans that a user has saved.  It shows a few of them and three more at every step.  A plan
that is deleted disappears from the list once the server has confirmed it.

* `Profile` — the state;
* `Profile.start`, `Profile.load` — a profile of given plans, and the one that a server knows;
* `Profile.loadMore`, `Profile.delete` — the operations;
* `Profile.document`, `Profile.toJson` — what is shown.
-/

namespace PlanBrowser

/-- The profile of a user. -/
structure Profile where
  user : String
  plans : List SavedPlan
  /-- The place that the user searched for most often. -/
  mostSearched : Option String
  /-- How many plans are shown. -/
  shown : Nat
  deriving Repr, DecidableEq, Inhabited

namespace Profile

/-- How many plans are shown at first, and how many more at every step. -/
def pageSize : Nat := 3

/-- A profile of given plans. -/
def start (user : String) (plans : List SavedPlan) (mostSearched : Option String) : Profile :=
  ⟨user, plans, mostSearched, pageSize⟩

/-- **The profile that two replies describe**; a reply that fails leaves its part empty. -/
def ofReplies (user : String) (plans : Except Failure SavedPlans)
    (favorites : Except Failure Favorites) : Profile :=
  start user ((plans.toOption.map (·.plans)).getD []) (favorites.toOption.bind (·.mostSearched))

/-- The profile that a server knows. -/
def load (c : Client) (l : Link) (user : String) : Profile × Link :=
  let (plans, l) := c.savedPlans l user
  let (favorites, l) := c.favorites l user
  (ofReplies user plans favorites, l)

/-- Some plans are not shown yet. -/
def moreVisible (p : Profile) : Bool :=
  decide (p.shown < p.plans.length)

/-- **One step.** -/
def loadMore (p : Profile) : Profile :=
  { p with shown := p.shown + pageSize }

/-- The profile after the server has answered a request to delete a plan. -/
def afterDelete (p : Profile) (id : String) : Except Failure Unit → Profile
  | .ok () => { p with plans := p.plans.filter (·.id ≠ id) }
  | .error _ => p

/-- **Deletes a plan.** -/
def delete (p : Profile) (c : Client) (l : Link) (id : String) :
    (Profile × Except Failure Unit) × Link :=
  let (result, l) := c.deletePlan l p.user id
  ((p.afterDelete id result, result), l)

/-- The written cards of the plans. -/
def cards (p : Profile) : List String :=
  p.plans.mapIdx fun i plan => Html.render (savedCard plan p.user i p.shown)

/-- **The profile page.** -/
def document (p : Profile) : String :=
  profilePage p.user p.mostSearched p.cards p.shown

/-- **The profile as JSON.** -/
def toJson (p : Profile) : Json :=
  .object [("username", .string p.user), ("plans", .ofList SavedPlan.toJson p.plans),
    ("most_searched", .ofOption p.mostSearched), ("shown", .count p.shown)]

end Profile

end PlanBrowser
