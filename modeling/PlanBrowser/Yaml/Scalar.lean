import PlanBrowser.Text.Numeral
import PlanBrowser.Yaml.Cursor

/-!
# Scalars in a YAML text

A scalar is a text in one of five styles.  **Plain** and **quoted** scalars may run over several lines; the
line ends are folded: a single one becomes a space, and of several all but the first stay.  A **block** scalar
takes the indented lines that follow, folded or as they are, and says how many line ends to keep at its end.

* `Style` — the styles;
* `readGap` — what lies between the words of a scalar;
* `readPlain`, `readQuoted`, `readBlock` — **a scalar**, in its kinds of style.
-/

namespace PlanBrowser.Yaml

/-- How a scalar is written. -/
inductive Style where
  | plain
  | singleQuoted
  | doubleQuoted
  | literal
  | folded
  deriving Repr, DecidableEq, Inhabited

/-! ## Between words -/

/-- What lies between two words: blanks on one line, or line ends. -/
structure Gap where
  /-- The blanks before the first line end. -/
  blanks : List Char
  /-- The line was left. -/
  broken : Bool
  /-- The first line end, unless it was escaped. -/
  first : List Char
  /-- The line ends after the first. -/
  more : List Char

/-- Nothing between two words. -/
def Gap.empty : Gap := ⟨[], false, [], []⟩

/-- A gap that begins with an escaped line end. -/
def Gap.escaped : Gap := ⟨[], true, [], []⟩

/-- **What a gap becomes** when its lines are folded. -/
def Gap.chars (g : Gap) : List Char :=
  if g.broken then
    if g.first = ['\n'] then (if g.more.isEmpty then [' '] else g.more) else g.first ++ g.more
  else g.blanks

/-- Reads a gap.  A tab before column `indent` of a new line is refused.  `fuel` bounds the length. -/
def readGap (indent : Nat) : Nat → Gap → Cursor → Option (Gap × Cursor)
  | 0, g, c => some (g, c)
  | fuel + 1, g, c =>
    match c.here? with
    | none => some (g, c)
    | some x =>
      if isGap x then
        if g.broken then
          if x == '\t' && c.column < indent then none else readGap indent fuel g (c.skip 1)
        else readGap indent fuel { g with blanks := g.blanks ++ [x] } (c.skip 1)
      else if isBreak x then
        if g.broken then readGap indent fuel { g with more := g.more ++ c.lineBreak } c.skipLine
        else readGap indent fuel ⟨[], true, c.lineBreak, []⟩ c.skipLine
      else some (g, c)

/-! ## Plain scalars -/

/-- A mark that ends a plain scalar inside brackets. -/
def endsInBrackets (x : Char) : Bool :=
  x == ',' || x == '[' || x == ']' || x.toNat == 0x7B || x.toNat == 0x7D

/-- A word of a plain scalar.  Inside brackets a colon directly before a mark is refused. -/
def plainWord (inBrackets : Bool) : List Char → Option (List Char)
  | [] => some []
  | x :: rest =>
    if isGap x || isBreak x then some []
    else if inBrackets && x == ':' && (rest.head?.map fun y => y == '?' || endsInBrackets y).getD false
      then none
    else if x == ':' && atGapOrEnd rest then some []
    else if inBrackets && endsInBrackets x then some []
    else (plainWord inBrackets rest).map (x :: ·)

/-- A plain scalar, and whether the place after it is on a new line.  On new lines it must stand at column
`indent` or further right.  `fuel` bounds the number of words. -/
def plainWords (inBrackets : Bool) (indent : Nat) :
    Nat → List Char → Gap → Cursor → Option (List Char × Bool × Cursor)
  | 0, text, g, c => some (text, g.broken, c)
  | fuel + 1, text, g, c => do
    if c.atIndicator || c.here? == some '#' then return (text, g.broken, c)
    let word ← plainWord inBrackets c.rest
    let (text, g) := if word.isEmpty then (text, g) else (text ++ g.chars ++ word, Gap.empty)
    let c := c.skip word.length
    match c.here? with
    | none => return (text, g.broken, c)
    | some x =>
      if !(isGap x || isBreak x) then return (text, g.broken, c)
      let (g, c) ← readGap indent (c.rest.length + 1) g c
      if !inBrackets && c.column < indent then return (text, g.broken, c)
      plainWords inBrackets indent fuel text g c

/-- **A plain scalar.** -/
def readPlain (inBrackets : Bool) (indent : Nat) (c : Cursor) : Option (List Char × Bool × Cursor) :=
  plainWords inBrackets indent (c.rest.length + 1) [] .empty c

/-! ## Quoted scalars -/

/-- A character that is written as a backslash and a letter. -/
def escape? (x : Char) : Option Char :=
  match x with
  | '0' => some (Char.ofNat 0)
  | 'a' => some (Char.ofNat 7)
  | 'b' => some (Char.ofNat 8)
  | 't' => some '\t'
  | '\t' => some '\t'
  | 'n' => some '\n'
  | 'v' => some (Char.ofNat 11)
  | 'f' => some (Char.ofNat 12)
  | 'r' => some '\r'
  | 'e' => some (Char.ofNat 27)
  | ' ' => some ' '
  | '"' => some '"'
  | '/' => some '/'
  | '\\' => some '\\'
  | 'N' => some (Char.ofNat 0x85)
  | '_' => some (Char.ofNat 0xA0)
  | 'L' => some (Char.ofNat 0x2028)
  | 'P' => some (Char.ofNat 0x2029)
  | _ => none

/-- How many hexadecimal digits follow the letter of an escape. -/
def escapeLength? (x : Char) : Option Nat :=
  match x with
  | 'x' => some 2
  | 'u' => some 4
  | 'U' => some 8
  | _ => none

/-- The character that hexadecimal digits stand for. -/
def hexChar? (ds : List Char) : Option Char := do
  let n ← ds.foldlM (fun n d => (Text.hexDigit? d).map (16 * n + ·)) 0
  if n.isValidChar then some (Char.ofNat n) else none

/-- A piece of a quoted scalar up to a gap, its end, or an escaped line end; how long it is in the source, and
what comes next. -/
inductive Stop where
  | gap
  | quote
  | escapedBreak
  deriving DecidableEq

/-- A piece of a scalar between single quotes. -/
def singlePiece : List Char → List Char × Nat × Stop
  | '\'' :: '\'' :: rest =>
    let (text, n, stop) := singlePiece rest
    ('\'' :: text, n + 2, stop)
  | '\'' :: _ => ([], 0, .quote)
  | x :: rest =>
    if isGap x || isBreak x then ([], 0, .gap)
    else
      let (text, n, stop) := singlePiece rest
      (x :: text, n + 1, stop)
  | [] => ([], 0, .gap)

/-- A piece of a scalar between double quotes.  `fuel` bounds its length. -/
def doublePiece : Nat → List Char → Option (List Char × Nat × Stop)
  | 0, _ => some ([], 0, .gap)
  | _ + 1, [] => some ([], 0, .gap)
  | _ + 1, '"' :: _ => some ([], 0, .quote)
  | fuel + 1, '\\' :: x :: rest =>
    if isBreak x then some ([], 0, .escapedBreak)
    else
      match escapeLength? x with
      | some k => do
        let ds := rest.take k
        if ds.length < k then none
        let y ← hexChar? ds
        let (text, n, stop) ← doublePiece fuel (rest.drop k)
        some (y :: text, n + 2 + k, stop)
      | none => do
        let y ← escape? x
        let (text, n, stop) ← doublePiece fuel rest
        some (y :: text, n + 2, stop)
  | fuel + 1, x :: rest =>
    if isGap x || isBreak x then some ([], 0, .gap)
    else if x == '\\' then none
    else do
      let (text, n, stop) ← doublePiece fuel rest
      some (x :: text, n + 1, stop)

/-- The rest of a quoted scalar.  `fuel` bounds the number of pieces. -/
def quotedPieces (single : Bool) : Nat → List Char → Cursor → Option (List Char × Cursor)
  | 0, _, _ => none
  | fuel + 1, text, c => do
    if c.atIndicator || c.rest.isEmpty then none
    let (piece, n, stop) ← if single then some (singlePiece c.rest) else
      doublePiece (c.rest.length + 1) c.rest
    let text := text ++ piece
    let c := c.skip n
    match stop with
    | .quote => some (text, c.skip 1)
    | .gap =>
      let (g, c) ← readGap 0 (c.rest.length + 1) .empty c
      quotedPieces single fuel (text ++ g.chars) c
    | .escapedBreak =>
      let (g, c) ← readGap 0 (c.rest.length + 1) .escaped (c.skip 1).skipLine
      quotedPieces single fuel (text ++ g.chars) c

/-- **A quoted scalar**, after its opening mark. -/
def readQuoted (single : Bool) (c : Cursor) : Option (List Char × Cursor) :=
  quotedPieces single (c.rest.length + 1) [] c

/-! ## Block scalars -/

/-- How many line ends a block scalar keeps at its end. -/
inductive Chomp where
  | strip
  | clip
  | keep
  deriving DecidableEq

/-- The marks after the indicator of a block scalar: what to keep, and how far the lines are indented. -/
def blockMarks (c : Cursor) : Option (Chomp × Option Nat × Cursor) :=
  let chomp (x : Char) : Option Chomp :=
    if x == '+' then some .keep else if x == '-' then some .strip else none
  let width (x : Char) : Option (Option Nat) :=
    if x.isDigit then (if x == '0' then some none else some (some (x.toNat - 48))) else none
  match c.rest with
  | x :: y :: _ =>
    match chomp x, width x with
    | some k, _ =>
      match width y with
      | some none => none
      | some (some n) => some (k, some n, c.skip 2)
      | none => some (k, none, c.skip 1)
    | none, some none => none
    | none, some (some n) =>
      match chomp y with
      | some k => some (k, some n, c.skip 2)
      | none => some (.clip, some n, c.skip 1)
    | none, none => some (.clip, none, c)
  | [x] =>
    match chomp x, width x with
    | some k, _ => some (k, none, c.skip 1)
    | none, some none => none
    | none, some (some n) => some (.clip, some n, c.skip 1)
    | none, none => some (.clip, none, c)
  | [] => some (.clip, none, c)

/-- Empty lines and the indentation of the next line: their line ends, the furthest column reached, and the
place after them.  Without a known indentation all spaces are passed.  `fuel` bounds the number of lines. -/
def blockBreaks (indent : Option Nat) : Nat → List Char → Nat → Cursor → Option (List Char × Nat × Cursor)
  | 0, breaks, far, c => some (breaks, far, c)
  | fuel + 1, breaks, far, c =>
    let spaces := (c.rest.takeWhile (· == ' ')).length
    let c := c.skip (match indent with
      | some n => min spaces (n - c.column)
      | none => spaces)
    let far := max far c.column
    let short := match indent with
      | some n => decide (c.column < n)
      | none => true
    match c.here? with
    | some x =>
      if short && x == '\t' then none
      else if isBreak x then blockBreaks indent fuel (breaks ++ c.lineBreak) far c.skipLine
      else some (breaks, far, c)
    | none => some (breaks, far, c)

/-- The lines of a block scalar.  `breaks` holds the line ends since the last line, `first` the one right after
it, and `blank` tells that it began with a gap.  `fuel` bounds the number of lines. -/
def blockLines (literal : Bool) (indent : Nat) :
    Nat → List Char → List Char → List Char → Bool → Cursor →
      Option (List Char × List Char × List Char × Cursor)
  | 0, text, first, breaks, _, c => some (text, first, breaks, c)
  | fuel + 1, text, first, breaks, blank, c =>
    if c.column != indent || c.rest.isEmpty then some (text, first, breaks, c)
    else do
      let startsBlank := (c.here?.map isGap).getD false
      let joint := if !literal && first == ['\n'] && !blank && !startsBlank then
        (if breaks.isEmpty then [' '] else []) else first
      let (line, c) := c.spanWhile (!isBreak ·)
      let first := c.lineBreak
      let (breaks', _, c) ← blockBreaks (some indent) (c.rest.length + 1) [] 0 c.skipLine
      blockLines literal indent fuel (text ++ joint ++ breaks ++ line) first breaks' startsBlank c

/-- **A block scalar**, after its indicator, inside a block at column `outer`. -/
def readBlock (literal : Bool) (outer : Int) (c : Cursor) : Option (List Char × Cursor) := do
  let (chomp, width, c) ← blockMarks c
  let c := c.skipWhile isGap
  let c := if c.here? == some '#' then c.skipWhile (!isBreak ·) else c
  if !atLineEnd c.rest then none
  let c := c.skipLine
  let known := width.map fun n => if 0 ≤ outer then outer.toNat + n else n
  let (breaks, far, c) ← blockBreaks known (c.rest.length + 1) [] 0 c
  let indent := known.getD (max far (max (outer + 1).toNat 1))
  let (text, first, breaks, c) ← blockLines literal indent (c.rest.length + 1) [] [] breaks false c
  let tail := match chomp with
    | .strip => []
    | .clip => first
    | .keep => first ++ breaks
  some (text ++ tail, c)

end PlanBrowser.Yaml
