import PlanBrowser.Api.Link
import PlanBrowser.Api.Options
import PlanBrowser.Plan.Wire
import PlanBrowser.Search

/-!
# The client of the planner's API

A client knows the server and the headers that every request gets.  Each operation sends one request to a URL
below the server's root, except that plans are fetched from the data URL of their search.

* `Client` — the client;
* `Client.ofServer`, `Client.ofSearch` — the client of a server's URL and of a search;
* `plans`, `savePlan`, `sendFeedback`, `summary`, `deletePlan`, `savedPlans`, `favorites` — the operations.
-/

namespace PlanBrowser

/-- The client of a server. -/
structure Client where
  /-- The root of the server. -/
  root : Url
  /-- The headers that every request gets. -/
  headers : List Header
  deriving Repr, DecidableEq

namespace Client

/-- **The client of a server's URL.** -/
def ofServer (o : Options) (server : String) : Except Failure Client := do
  match Url.parse server with
  | .error _ => throw (.badBase server)
  | .ok u =>
    if !u.isHierarchical then throw (.badBase server)
    let headers ← o.defaultHeaders
    o.checkProxy
    pure ⟨u.root, headers⟩

/-- **The client of the server of a search.** -/
def ofSearch (o : Options) (s : Search) : Except Failure Client :=
  ofServer o s.page.text

/-- The URL that some segments lead to on the server. -/
def endpoint (c : Client) (segments : List String) : Url :=
  c.root.below segments

/-! ## Exchanges -/

/-- A result that is read from an answer to a URL. -/
def readAnswer {α : Type} (url : Url) (read : Nat → Json.Reader α) :
    Except Failure (List UInt8) → Except Failure α
  | .error failure => .error failure
  | .ok bytes =>
    match Json.readAll read (Json.sourceOfBytes bytes) with
    | .ok a => .ok a
    | .error fault => .error (.malformed url.text fault)

/-- Sends a request and looks at nothing but whether it was accepted. -/
def perform (c : Client) (l : Link) (method : Method) (url : Url) (body : Option Json) :
    Except Failure Unit × Link :=
  let (result, l) := l.send url (Request.make c.headers method url body)
  (result.map fun _ => (), l)

/-- Sends a request and reads the answer. -/
def ask {α : Type} (c : Client) (l : Link) (method : Method) (url : Url) (body : Option Json)
    (read : Nat → Json.Reader α) : Except Failure α × Link :=
  let (result, l) := l.send url (Request.make c.headers method url body)
  (readAnswer url read result, l)

/-! ## Operations -/

/-- The plans of a search, or another number of them. -/
def plans (c : Client) (l : Link) (s : Search) (count : Option Nat) : Except Failure Batch × Link :=
  c.ask l .get (s.dataUrl count) none Batch.read

/-- Saves a plan for a user. -/
def savePlan (c : Client) (l : Link) (user : String) (r : SaveRequest) : Except Failure Unit × Link :=
  c.perform l .post (c.endpoint ["v1", "users", user, "plans"]) (some r.toJson)

/-- Sends a user's feedback. -/
def sendFeedback (c : Client) (l : Link) (user : String) (f : Feedback) : Except Failure Unit × Link :=
  c.perform l .post (c.endpoint ["v1", "users", user, "feedback"]) (some f.toJson)

/-- The summary of a plan. -/
def summary (c : Client) (l : Link) (r : SummaryRequest) : Except Failure Summary × Link :=
  c.ask l .post (c.endpoint ["v1", "plan-summary"]) (some r.toJson) Summary.read

/-- Deletes a saved plan of a user. -/
def deletePlan (c : Client) (l : Link) (user id : String) : Except Failure Unit × Link :=
  c.perform l .delete (c.endpoint ["v1", "users", user, "plan", id]) none

/-- The saved plans of a user. -/
def savedPlans (c : Client) (l : Link) (user : String) : Except Failure SavedPlans × Link :=
  c.ask l .get (c.endpoint ["v1", "users", user, "plans"]) none SavedPlans.read

/-- The searches of a user. -/
def favorites (c : Client) (l : Link) (user : String) : Except Failure Favorites × Link :=
  c.ask l .get (c.endpoint ["v1", "users", user, "favorites"]) none Favorites.read

end Client

end PlanBrowser
