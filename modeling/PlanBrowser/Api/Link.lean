import PlanBrowser.Api.Failure
import PlanBrowser.Api.Request

/-!
# The link to a server

The outside world enters as a **network**: for every request, in the light of all requests before it, what
comes back.  A **link** is a network together with the requests that have been sent over it so far; once it is
cancelled, nothing is sent any more.

* `Outcome`, `Network` — what comes back;
* `Link` — a network in use;
* `Link.send` — sends a request and waits for the bytes of an answer that accepts it.
-/

namespace PlanBrowser

/-- What comes back for a request. -/
inductive Outcome where
  | answer (status : Nat) (body : List UInt8)
  | broken (cause : Breakdown)
  /-- Nothing, until the time is up. -/
  | silence
  deriving Repr, DecidableEq, Inhabited

/-- What comes back for a request, in the light of the requests before it. -/
abbrev Network := List Request → Request → Outcome

/-- The network that leads nowhere. -/
def Network.unreachable : Network :=
  fun _ _ => .broken .unreachable

/-- A network in use. -/
structure Link where
  network : Network
  /-- The requests sent so far, in order. -/
  sent : List Request
  cancelled : Bool

namespace Link

/-- A link over which nothing has been sent. -/
def unused (network : Network) : Link :=
  ⟨network, [], false⟩

/-- Nothing is sent from now on. -/
def cancel (l : Link) : Link :=
  { l with cancelled := true }

/-- What an outcome means for a request to a URL: only an answer with a status of the two hundreds is good. -/
def judge (url : Url) : Outcome → Except Failure (List UInt8)
  | .answer status body =>
    if 200 ≤ status && status ≤ 299 then .ok body
    else .error (.status url.text status (String.ofList (Text.Utf8.decodeLossy body)))
  | .broken cause => .error (.network url.text url.withoutCredentials.text cause)
  | .silence => .error (.timedOut url.text)

/-- **Sending a request** made for a URL. -/
def send (l : Link) (url : Url) (r : Request) : Except Failure (List UInt8) × Link :=
  if l.cancelled then (.error (.cancelled url.text), l)
  else (judge url (l.network l.sent r), { l with sent := l.sent ++ [r] })

end Link

end PlanBrowser
