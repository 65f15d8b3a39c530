import PlanBrowser.Url.Ipv4
import PlanBrowser.Url.Ipv6

/-!
# URLs

A URL names a scheme, perhaps a host with credentials and a port, a path, and perhaps a query and a fragment.
All its parts are kept in their encoded form.  A few schemes are **special**: their URLs always have a host, a
default port and a path of segments.  A URL of another scheme without a host may have a path that is not made
of segments; nothing can be put into such a path.

* `SchemeKind`, `defaultPort?` — what is special about a scheme, and its default port;
* `Host`, `Path` — the parts with several forms;
* `Url` — a URL;
* `Url.text` — its written form.
-/

namespace PlanBrowser

namespace Url

/-! ## Schemes -/

/-- How a scheme treats its URLs. -/
inductive SchemeKind where
  /-- With a host, always. -/
  | special
  /-- The scheme of local files, whose URLs may have a host. -/
  | file
  /-- Any other scheme. -/
  | plain
  deriving Repr, DecidableEq, Inhabited

/-- The kind of a scheme. -/
def kindOf (scheme : String) : SchemeKind :=
  if scheme = "http" || scheme = "https" || scheme = "ws" || scheme = "wss" || scheme = "ftp" then .special
  else if scheme = "file" then .file
  else .plain

/-- Special URLs and those of local files use the backslash like the slash. -/
def SchemeKind.isSpecial : SchemeKind → Bool
  | plain => false
  | _ => true

/-- The port that need not be written. -/
def defaultPort? (scheme : String) : Option UInt16 :=
  if scheme = "http" || scheme = "ws" then some 80
  else if scheme = "https" || scheme = "wss" then some 443
  else if scheme = "ftp" then some 21
  else none

/-! ## Hosts and paths -/

/-- The host of a URL. -/
inductive Host where
  | name (s : String)
  | ipv4 (address : UInt32)
  | ipv6 (groups : List Nat)
  deriving Repr, DecidableEq, Inhabited

/-- A host, written. -/
def Host.chars : Host → List Char
  | name s => s.toList
  | ipv4 a => Ipv4.written a
  | ipv6 g => '[' :: Ipv6.written g ++ [']']

/-- The path of a URL. -/
inductive Path where
  /-- Segments, each after a slash. -/
  | segments (ss : List String)
  /-- A path that is not made of segments. -/
  | whole (s : String)
  deriving Repr, DecidableEq, Inhabited

/-- A path, written. -/
def Path.chars : Path → List Char
  | segments ss => ss.flatMap fun s => '/' :: s.toList
  | whole s => s.toList

end Url

/-! ## URLs -/

/-- A URL, its parts in their encoded form. -/
structure Url where
  scheme : String
  user : String
  password : Option String
  /-- The host, if there is a place for one; the place may be empty. -/
  host : Option Url.Host
  /-- The port, unless it is the default port of the scheme. -/
  port : Option UInt16
  path : Url.Path
  /-- The path is written after `/.`, because without a host it would look like one. -/
  shielded : Bool
  query : Option String
  fragment : Option String
  deriving Repr, DecidableEq, Inhabited

namespace Url

/-- The kind of a URL's scheme. -/
def kind (u : Url) : SchemeKind :=
  kindOf u.scheme

/-- The URL has a host. -/
def hasHost (u : Url) : Bool :=
  match u.host with
  | none => false
  | some h => h != .name ""

/-- The credentials, written. -/
def credentials (u : Url) : List Char :=
  match u.password with
  | some p => u.user.toList ++ ':' :: p.toList ++ ['@']
  | none => if u.user.isEmpty then [] else u.user.toList ++ ['@']

/-- The host and the port, written. -/
def hostAndPort (u : Url) : List Char :=
  (u.host.map Host.chars).getD [] ++
    match u.port with
    | some p => ':' :: Text.digits p.toNat
    | none => []

/-- What comes before the path, written. -/
def origin (u : Url) : List Char :=
  u.scheme.toList ++ ':' ::
    if u.host.isSome then '/' :: '/' :: u.credentials ++ u.hostAndPort
    else if u.shielded then ['/', '.']
    else []

/-- A part that may be missing, written after its mark. -/
def marked (mark : Char) : Option String → List Char
  | some s => mark :: s.toList
  | none => []

/-- The URL, written, as characters. -/
def chars (u : Url) : List Char :=
  u.origin ++ u.path.chars ++ marked '?' u.query ++ marked '#' u.fragment

/-- **The written form** of a URL. -/
def text (u : Url) : String :=
  String.ofList u.chars

/-- The URL has a path that segments can be put into. -/
def isHierarchical (u : Url) : Bool :=
  match u.path with
  | .segments _ => true
  | .whole _ => false

end Url

end PlanBrowser
