import PlanBrowser.Api.Header
import PlanBrowser.Api.Proxy
import PlanBrowser.Json.Source
import PlanBrowser.Text.Numeral

/-!
# Failures of the planner's API

* `Breakdown` — how an exchange can break off;
* `Failure` — why there is no client, or why a request has no result;
* `Failure.message` — the same in words;
* `Failure.status?` — the status, if the server answered and refused.
-/

namespace PlanBrowser

/-- How an exchange can break off. -/
inductive Breakdown where
  /-- There is no way to the server. -/
  | unreachable
  /-- The server hangs up without an answer. -/
  | dropped
  /-- The answer ends early. -/
  | cut
  deriving Repr, DecidableEq, Inhabited

/-- How the exchange with a URL broke off, in words. -/
def Breakdown.message (url : String) : Breakdown → String
  | unreachable =>
    "error sending request for url (" ++ url ++ "): error trying to connect: "
      ++ "tcp connect error: Network is unreachable (os error 101)"
  | dropped =>
    "error sending request for url (" ++ url ++ "): connection closed before message completed"
  | cut =>
    "request or response body error: error reading a body from connection: "
      ++ "end of file before message length reached"

/-- What is wrong with an answer that is not of the expected shape, in words. -/
def Json.Fault.message : Json.Fault → String
  | grammar => "expected value at line 1 column 1"
  | shape => "invalid type at line 1 column 1"
  | ended => "EOF while parsing a value at line 1 column 0"

/-- Why there is no client, or why a request has no result. -/
inductive Failure where
  /-- The exchange broke off; `sent` is the URL as it was sent, without credentials. -/
  | network (url sent : String) (cause : Breakdown)
  | timedOut (url : String)
  | status (url : String) (code : Nat) (body : String)
  | malformed (url : String) (cause : Json.Fault)
  | cancelled (url : String)
  | badBase (url : String)
  | badHeader (message : String)
  | badProxy (proxy : String) (cause : ProxyFault)
  deriving Repr, DecidableEq, Inhabited

namespace Failure

/-- **A failure in words.** -/
def message : Failure → String
  | network url sent cause => "request to " ++ url ++ " failed: " ++ cause.message sent
  | timedOut url => "request to " ++ url ++ " timed out"
  | status url code _ => "request to " ++ url ++ " returned HTTP " ++ Text.written code
  | malformed url cause => "malformed response from " ++ url ++ ": " ++ cause.message
  | cancelled url => "request to " ++ url ++ " was cancelled"
  | badBase url => "invalid base URL: " ++ url
  | badHeader message => "invalid header: " ++ message
  | badProxy proxy cause => "failed to setup proxy: " ++ proxy ++ ": " ++ cause.message

/-- The status of an answer that refuses a request. -/
def status? : Failure → Option Nat
  | status _ code _ => some code
  | _ => none

end Failure

end PlanBrowser
