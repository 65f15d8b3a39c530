import PlanBrowser.Url.Form
import PlanBrowser.Url.Parse

/-!
# URLs made from others

* `Url.parameters`, `Url.withParameters` — the query of a URL as parameters;
* `Url.root` — the URL of the server alone;
* `Url.below` — that server with another path, given segment by segment.
-/

namespace PlanBrowser.Url

/-- The parameters of the query. -/
def parameters (u : Url) : List Parameter :=
  readParameters ((u.query.map String.toList).getD [])

/-- **The same page with other parameters**, and without a fragment. -/
def withParameters (u : Url) (ps : List Parameter) : Url :=
  { u with query := some (String.ofList (writeParameters ps)), fragment := none }

/-- **The server**: the root path, no query and no fragment. -/
def root (u : Url) : Url :=
  { u with path := .segments [""], query := none, fragment := none }

/-- One more segment at the end of a path.  A path of nothing but its slash is replaced.  Segments that are
dots are passed over; dots that appear only when line ends and tabs are left out work as in any path. -/
def append (kind : SchemeKind) (ss : List String) (segment : String) : List String :=
  if segment = "." || segment = ".." then ss
  else
    let escapes := if kind.isSpecial then specialSegmentEscapes else segmentEscapes
    let cs := segment.toList.filter fun c => c != '\t' && c != '\n' && c != '\r'
    let ss := if ss = [""] then [] else ss
    withoutEmptyFront kind (enter kind ss (percentEncode escapes cs) true)

/-- **The URL below the root** that some segments lead to. -/
def below (u : Url) (segments : List String) : Url :=
  { u with path := .segments (segments.foldl (append u.kind) [""]) }

end PlanBrowser.Url
