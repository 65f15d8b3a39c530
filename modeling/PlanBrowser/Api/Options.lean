import PlanBrowser.Api.Failure
import PlanBrowser.Identity.Token

/-!
# Options of a client

* `Options` — what a user can say about the requests;
* `Options.defaultHeaders` — the headers that every request gets;
* `Options.checkProxy` — whether the proxy can be used.
-/

namespace PlanBrowser

/-- What a user can say about the requests. -/
structure Options where
  /-- How many seconds an answer may take. -/
  timeout : Nat
  proxy : Option String
  /-- A header line for every request. -/
  header : Option String
  /-- The session token. -/
  token : Option String
  deriving Repr, DecidableEq, Inhabited

namespace Options

/-- How many seconds an answer may take when nobody says otherwise. -/
def defaultTimeout : Nat := 10

/-- Nothing said. -/
def default : Options :=
  ⟨defaultTimeout, none, none, none⟩

/-- The headers that every client sends. -/
def ownHeaders : List Header :=
  [⟨"user-agent", "tripview/0.1.0"⟩, ⟨"accept", "application/json"⟩]

/-- The header that a text asks for; a blank text asks for none. -/
def optionalHeader (read : String → Except Header.Fault Header) (s : Option String) :
    Except Failure (List Header) :=
  match s.bind Text.given? with
  | none => .ok []
  | some s =>
    match read s with
    | .ok h => .ok [h]
    | .error fault => .error (.badHeader fault.message)

/-- **The headers that every request gets**: the client's own, the token, and the user's header line. -/
def defaultHeaders (o : Options) : Except Failure (List Header) := do
  let cookie ← optionalHeader Header.cookie o.token
  let extra ← optionalHeader Header.read o.header
  pure (ownHeaders ++ cookie ++ extra)

/-- The proxy can be used, if one is given. -/
def checkProxy (o : Options) : Except Failure Unit :=
  match o.proxy.bind Text.given? with
  | none => .ok ()
  | some s =>
    match proxyOf s with
    | .ok _ => .ok ()
    | .error cause => .error (.badProxy s cause)

end Options

end PlanBrowser
