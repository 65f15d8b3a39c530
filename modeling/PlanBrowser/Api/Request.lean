import PlanBrowser.Api.Header
import PlanBrowser.Identity.Base64
import PlanBrowser.Json.Write
import PlanBrowser.Url.Basic

/-!
# Requests

A request has a method, a URL without credentials, headers and perhaps a body.  Credentials of the URL travel
in a header instead.  A header is only added while none of its name is there, so the headers of the request
itself come before the client's **default headers**, and of several defaults with one name the first counts.

* `Method`, `Request` — a request;
* `Header.addTo`, `Header.under` — adding one header, and a list of them, to others;
* `Request.make` — the request of a client.
-/

namespace PlanBrowser

/-- What a request does. -/
inductive Method where
  | get
  | post
  | delete
  deriving Repr, DecidableEq, Inhabited

/-- A request. -/
structure Request where
  method : Method
  url : Url
  headers : List Header
  body : Option String
  deriving Repr, DecidableEq, Inhabited

namespace Header

/-- A header is added unless one of its name is there. -/
def addTo (headers : List Header) (h : Header) : List Header :=
  if headers.any (·.name = h.name) then headers else headers ++ [h]

/-- Default headers are added one by one, as the transport is assumed to do: none to a name that is there already, so of
several of one name the first counts. -/
def under (defaults headers : List Header) : List Header :=
  defaults.foldl addTo headers

end Header

namespace Url

/-- The URL without its credentials. -/
def withoutCredentials (u : Url) : Url :=
  { u with user := "", password := none }

/-- The header of the URL's credentials, if they are texts. -/
def authorization? (u : Url) : Option Header :=
  let plain (s : String) : Option (List Char) := Text.Utf8.decode? (percentDecode s.toList)
  match plain u.user with
  | none => none
  | some user =>
    let password := u.password.bind plain
    if user.isEmpty && password.isNone then none
    else
      let pair := user ++ ':' :: password.getD []
      some ⟨"authorization",
        "Basic " ++ String.ofList (Base64.encodeFilled .plain (Text.Utf8.encode pair))⟩

end Url

/-- **The request** of a client with some default headers. -/
def Request.make (defaults : List Header) (method : Method) (url : Url) (body : Option Json) : Request :=
  let own : List Header := (if body.isSome then [⟨"content-type", "application/json"⟩] else [])
    ++ url.authorization?.toList
  { method := method
    url := url.withoutCredentials
    headers := Header.addTo (Header.under defaults own) ⟨"host", String.ofList url.hostAndPort⟩
    body := body.map Json.text }

end PlanBrowser
