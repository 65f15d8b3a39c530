import PlanBrowser.Url.Basic
import PlanBrowser.Url.Domain
import PlanBrowser.Url.Fault

/-!
# Reading URLs

A text is read as a URL after blanks and controls at its ends, and line ends and tabs anywhere, are left out.
The scheme decides how the rest is read.  A path is read segment by segment: a segment of one dot is left out,
a segment of two dots takes the segment before it away, and dots may be percent codes.

* `splitScheme?` — the scheme;
* `readHost`, `readPlainHost`, `readAuthority`, `readFileHost` — what comes before the path;
* `walk` — a path of segments;
* `Url.parse` — the whole.
-/

namespace PlanBrowser.Url

open PlanBrowser.Text (pieces)

/-! ## Text and scheme -/

/-- The text without controls and blanks at its ends, and without tabs and line ends. -/
def cleaned (cs : List Char) : List Char :=
  let outer (c : Char) : Bool := c.toNat ≤ 0x20
  (((cs.dropWhile outer).reverse.dropWhile outer).reverse).filter fun c =>
    c != '\t' && c != '\n' && c != '\r'

/-- The rest of a scheme, in lower case, and what follows its colon. -/
def schemeTail? : List Char → Option (List Char × List Char)
  | [] => none
  | c :: cs =>
    if c = ':' then some ([], cs)
    else if c.isAlphanum || c = '+' || c = '-' || c = '.' then
      (schemeTail? cs).map fun (scheme, rest) => (c.toLower :: scheme, rest)
    else none

/-- The scheme at the front of a text: a letter, then letters, digits and three marks, up to a colon. -/
def splitScheme? (cs : List Char) : Option (String × List Char) :=
  match cs with
  | c :: _ =>
    if c.isAlpha then (schemeTail? cs).map fun (scheme, rest) => (String.ofList scheme, rest) else none
  | [] => none

/-- A slash, or a backslash where it counts as one. -/
def isSlash (kind : SchemeKind) (c : Char) : Bool :=
  c == '/' || (kind.isSpecial && c == '\\')

/-- The end of everything before the path. -/
def endsAuthority (kind : SchemeKind) (c : Char) : Bool :=
  isSlash kind c || c == '?' || c == '#'

/-! ## Hosts -/

/-- A host in brackets. -/
def readBracketed (cs : List Char) : Except Fault Host :=
  match cs.drop 1, cs.getLast? with
  | inner, some ']' =>
    match Ipv6.read? inner.dropLast with
    | some groups => .ok (.ipv6 groups)
    | none => .error .badIpv6
  | _, _ => .error .badIpv6

/-- **The host of a special URL**: an address or a domain name, which may be written in percent codes. -/
def readHost (cs : List Char) : Except Fault Host :=
  if cs.head? = some '[' then readBracketed cs
  else
    match Domain.toAscii? (percentDecode cs) with
    | none => .error .badDomain
    | some [] => .error .emptyHost
    | some name =>
      if endsInNumber name then
        match Ipv4.read? name with
        | some a => .ok (.ipv4 a)
        | none => .error .badIpv4
      else .ok (.name (String.ofList name))

/-- A character that no host may hold, special or not. -/
def isForbiddenInHost (c : Char) : Bool :=
  c.toNat == 0 || c == '\t' || c == '\n' || c == '\r' || c == ' ' || c == '#' || c == '/' || c == ':'
    || c == '<' || c == '>' || c == '?' || c == '@' || c == '[' || c == '\\' || c == ']' || c == '^'
    || c == '|'

/-- The host of a URL that is not special: any name without the characters that part a URL. -/
def readPlainHost (cs : List Char) : Except Fault Host :=
  if cs.head? = some '[' then readBracketed cs
  else if cs.any isForbiddenInHost then .error .badHostCharacter
  else .ok (.name (String.ofList (percentEncode controls cs)))

/-- The host at the front of a text ends at the first colon outside brackets. -/
def splitHost (bracketed : Bool) : List Char → List Char × List Char
  | [] => ([], [])
  | c :: cs =>
    if c = ':' && !bracketed then ([], c :: cs)
    else
      let (host, rest) := splitHost (if c = '[' then true else if c = ']' then false else bracketed) cs
      (c :: host, rest)

/-- The port after a colon, and the rest. -/
def readPort (scheme : String) (cs : List Char) : Except Fault (Option UInt16 × List Char) :=
  let ds := cs.takeWhile Char.isDigit
  let n := Text.valueOf ds
  if 65535 < n then .error .badPort
  else
    let port := if ds.isEmpty || some n.toUInt16 = defaultPort? scheme then none else some n.toUInt16
    match cs.dropWhile Char.isDigit with
    | [] => .ok (port, [])
    | '\\' :: rest => .ok (port, '\\' :: rest)
    | _ => .error .badPort

/-! ## What comes before the path -/

/-- Credentials, host and port. -/
structure Authority where
  user : String
  password : Option String
  host : Host
  port : Option UInt16

/-- The credentials before the last at-sign, and the text after it. -/
def splitCredentials (cs : List Char) : Option (List Char) × List Char :=
  match cs.reverse.dropWhile (· != '@') with
  | [] => (none, cs)
  | _ :: before => (some before.reverse, (cs.reverse.takeWhile (· != '@')).reverse)

/-- User name and password of credentials, encoded; an empty password is none. -/
def readCredentials (cs : List Char) : String × Option String :=
  let encoded (part : List Char) : String := String.ofList (percentEncode credentialEscapes part)
  match Text.cutFirst? ':' cs with
  | none => (encoded cs, none)
  | some (user, password) =>
    (encoded user, if password.isEmpty then none else some (encoded password))

/-- **The authority** at the front of a text, and what follows it. -/
def readAuthority (scheme : String) (cs : List Char) : Except Fault (Authority × List Char) := do
  let kind := kindOf scheme
  let front := cs.takeWhile (!endsAuthority kind ·)
  let rest := cs.dropWhile (!endsAuthority kind ·)
  let (credentials, place) := splitCredentials front
  if credentials = some [] && place.isEmpty && !rest.isEmpty then throw .emptyHost
  let (user, password) := readCredentials (credentials.getD [])
  let (name, afterName) := splitHost false place
  if kind.isSpecial && name.isEmpty then throw .emptyHost
  let host ← if kind.isSpecial then readHost name else readPlainHost name
  if name.isEmpty && !afterName.isEmpty then throw .emptyHost
  let (port, more) ← readPort scheme (afterName.drop 1)
  if name.isEmpty && (!user.isEmpty || password.isSome) then throw .emptyHost
  pure (⟨user, password, host, port⟩, more ++ rest)

/-- A letter and a colon or a bar: the name of a drive. -/
def isDriveLetter (cs : List Char) : Bool :=
  match cs with
  | [c, d] => c.isAlpha && (d == ':' || d == '|')
  | _ => false

/-- The host of a local file; the local machine goes without saying. -/
def readFileHost (cs : List Char) : Except Fault Host :=
  if cs.isEmpty then .ok (.name "")
  else
    match readHost cs with
    | .ok (.name s) => .ok (.name (if s = "localhost" then "" else s))
    | r => r

/-! ## Paths -/

/-- A segment that stands for the place where it is. -/
def isDot (cs : List Char) : Bool :=
  cs == ['.'] || cs.map Char.toLower == ['%', '2', 'e']

/-- A segment that stands for the place above. -/
def isDoubleDot (cs : List Char) : Bool :=
  let cs := cs.map Char.toLower
  cs == ['.', '.'] || cs == ['.', '%', '2', 'e'] || cs == ['%', '2', 'e', '.']
    || cs == ['%', '2', 'e', '%', '2', 'e']

/-- The segments without the last one; the drive of a local file stays. -/
def shorten (kind : SchemeKind) (ss : List String) : List String :=
  match ss with
  | [s] => if kind == .file && isDriveLetter s.toList then [s] else []
  | ss => ss.dropLast

/-- The drive that a segment names, with its colon. -/
def driveOf (cs : List Char) : String :=
  String.ofList (cs.take 1 ++ [':'])

/-- **One segment**, encoded, after others.  `last` tells that no slash follows it, so that a path which
ends in dots ends in a slash. -/
def enter (kind : SchemeKind) (ss : List String) (cs : List Char) (last : Bool) : List String :=
  if isDoubleDot cs then shorten kind ss ++ (if last then [""] else [])
  else if isDot cs then ss ++ (if last then [""] else [])
  else if kind == .file && ss.isEmpty && isDriveLetter cs then [driveOf cs]
  else ss ++ [String.ofList cs]

/-- **A path**, segment by segment. -/
def walk (kind : SchemeKind) : List String → List (List Char) → List String
  | ss, [] => ss
  | ss, [cs] => enter kind ss (percentEncode pathEscapes cs) true
  | ss, cs :: rest => walk kind (enter kind ss (percentEncode pathEscapes cs) false) rest

/-- The segments between the slashes of a text. -/
def slashPieces (kind : SchemeKind) (cs : List Char) : List (List Char) :=
  pieces '/' (cs.map fun c => if isSlash kind c then '/' else c)

/-- The segments of a path; the slash in front of the first one may be missing. -/
def readSegments (kind : SchemeKind) (cs : List Char) : List String :=
  walk kind [] (slashPieces kind (match cs with
    | c :: rest => if isSlash kind c then rest else c :: rest
    | [] => []))

/-- The segments without the empty ones in front, which mean nothing to a local file. -/
def withoutEmptyFront (kind : SchemeKind) (ss : List String) : List String :=
  if kind == .file then
    match ss.dropWhile String.isEmpty with
    | [] => [""]
    | ss => ss
  else ss

/-- The segments begin with a drive. -/
def onDrive (ss : List String) : Bool :=
  match ss with
  | s :: _ => isDriveLetter s.toList
  | [] => false

/-! ## Whole URLs -/

/-- Path, query and fragment at the end of a text. -/
def splitPath (cs : List Char) : List Char × Option (List Char) × Option (List Char) :=
  let path := cs.takeWhile fun c => c != '?' && c != '#'
  match cs.dropWhile fun c => c != '?' && c != '#' with
  | '?' :: rest =>
    match Text.cutFirst? '#' rest with
    | some (query, fragment) => (path, some query, some fragment)
    | none => (path, some rest, none)
  | '#' :: fragment => (path, none, some fragment)
  | _ => (path, none, none)

/-- The URL of its parts. -/
def assemble (scheme : String) (authority : Option Authority) (path : Path)
    (query fragment : Option (List Char)) : Url :=
  let escapes := if (kindOf scheme).isSpecial then specialQueryEscapes else queryEscapes
  { scheme := scheme
    user := (authority.map (·.user)).getD ""
    password := authority.bind (·.password)
    host := authority.map (·.host)
    port := authority.bind (·.port)
    path := path
    shielded := authority.isNone && match path with
      | .segments ("" :: _ :: _) => true
      | _ => false
    query := query.map fun q => String.ofList (percentEncode escapes q)
    fragment := fragment.map fun f => String.ofList (percentEncode fragmentEscapes f) }

/-- The URL of an authority and of a text that begins with its path. -/
def withAuthority (scheme : String) (cs : List Char) : Except Fault Url := do
  let kind := kindOf scheme
  let (authority, rest) ← readAuthority scheme cs
  let (path, query, fragment) := splitPath rest
  let segments := if path.isEmpty && !kind.isSpecial then [] else readSegments kind path
  pure (assemble scheme (some authority) (.segments segments) query fragment)

/-- The URL of a local file. -/
def readFile (cs : List Char) : Except Fault Url := do
  let (name, rest) := match cs with
    | c :: d :: rest =>
      if isSlash .file c && isSlash .file d then
        let name := rest.takeWhile (!endsAuthority .file ·)
        if isDriveLetter name then ([], rest) else (name, rest.dropWhile (!endsAuthority .file ·))
      else ([], cs)
    | _ => ([], cs)
  let host ← readFileHost name
  let (path, query, fragment) := splitPath rest
  let segments := readSegments .file path
  -- a path that begins with a drive is on the local machine
  let host := if onDrive segments then .name "" else host
  pure (assemble "file" (some ⟨"", none, host, none⟩)
    (.segments (withoutEmptyFront .file segments)) query fragment)

/-- The URL of a scheme that is not special, after its colon. -/
def readPlain (scheme : String) (cs : List Char) : Except Fault Url :=
  match cs with
  | '/' :: '/' :: rest => withAuthority scheme rest
  | _ =>
    let (path, query, fragment) := splitPath cs
    let path := match path with
      | '/' :: _ => Path.segments (readSegments .plain path)
      | _ => .whole (String.ofList (percentEncode controls path))
    .ok (assemble scheme none path query fragment)

/-- **Reading a URL.** -/
def parse (s : String) : Except Fault Url :=
  match splitScheme? (cleaned s.toList) with
  | none => .error .noScheme
  | some (scheme, rest) =>
    match kindOf scheme with
    | .special => withAuthority scheme (rest.dropWhile (isSlash .special))
    | .file => readFile rest
    | .plain => readPlain scheme rest

end PlanBrowser.Url
