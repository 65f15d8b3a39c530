import PlanBrowser.Text.Numeral
import PlanBrowser.Text.Utf8
import PlanBrowser.Yaml.Scalar

/-!
# The tokens of a YAML text

A text is cut into **tokens**: indicators, names, scalars, and the marks that indentation stands for.  A
mapping key need not be announced.  Whether something was a key is known only at the colon after it, so
every place where a key may begin is remembered until its line ends, and the mark is inserted there later.

* `Token` — the tokens;
* `Scan` — how far a text is cut, with the open blocks and the remembered places;
* `Scan.next` — the next token;
* `Token.all?` — **all tokens of a text**, unless it is ill-formed.
-/

namespace PlanBrowser.Yaml

/-- A piece of a YAML text. -/
inductive Token where
  /-- The directive that tells the version. -/
  | version (major minor : Nat)
  /-- The directive that sets a shorthand for the beginnings of tags. -/
  | shorthand (handle start : List Char)
  | documentStart
  | documentEnd
  /-- A list of indented entries begins. -/
  | listStart
  /-- An indented mapping begins. -/
  | mapStart
  /-- An indented list or mapping ends. -/
  | blockEnd
  | openBracket
  | closeBracket
  | openBrace
  | closeBrace
  | comma
  | entry
  | key
  | value
  | alias (name : List Char)
  | anchor (name : List Char)
  | tag (handle rest : List Char)
  | scalar (style : Style) (text : List Char)
  deriving DecidableEq, Inhabited

/-! ## Names, tags and directives -/

/-- The name of an anchor or an alias, after its indicator. -/
def readName (c : Cursor) : Option (List Char × Cursor) :=
  let (name, c) := c.spanWhile isWord
  let closes := match c.here? with
    | some x => x == '?' || x == ':' || x == ',' || x == ']' || x.toNat == 0x7D || x == '%' || x == '@'
        || x.toNat == 0x60
    | none => true
  if name.isEmpty || !(atGapOrEnd c.rest || closes) then none else some (name, c)

/-- The handle of a tag, and whether a second exclamation mark closed it. -/
def readHandle (c : Cursor) : Option (List Char × Bool × Cursor) :=
  if c.here? != some '!' then none
  else
    let (name, c) := (c.skip 1).spanWhile isWord
    if c.here? == some '!' then some ('!' :: name ++ ['!'], true, c.skip 1)
    else some ('!' :: name, false, c)

/-- A character of a tag.  Some more may stand in one that is written in full. -/
def isTagChar (full : Bool) (x : Char) : Bool :=
  isWord x || ";/?:@&=+$.!~*()".toList.contains x || x == '\'' || (full && (x == ',' || x == '[' || x == ']'))

/-- How many bytes the character has that begins with a byte. -/
def widthOf? (b : Nat) : Option Nat :=
  if b < 0x80 then some 1
  else if 0xC0 ≤ b && b < 0xE0 then some 2
  else if 0xE0 ≤ b && b < 0xF0 then some 3
  else if 0xF0 ≤ b && b < 0xF8 then some 4
  else none

/-- The byte of a percent sign and two hexadecimal digits. -/
def escapedByte? : List Char → Option (Nat × List Char)
  | '%' :: a :: b :: rest => do
    let x ← Text.hexDigit? a
    let y ← Text.hexDigit? b
    some (16 * x + y, rest)
  | _ => none

/-- Further bytes of an escaped character. -/
def escapedTail? : Nat → List Char → Option (List Nat × List Char)
  | 0, cs => some ([], cs)
  | n + 1, cs => do
    let (b, cs) ← escapedByte? cs
    if b < 0x80 || 0xC0 ≤ b then none
    let (bs, cs) ← escapedTail? n cs
    some (b :: bs, cs)

/-- The text of a tag and how long it is in the source.  `fuel` bounds the length. -/
def tagText (full : Bool) : Nat → List Char → Option (List Char × Nat)
  | 0, _ => some ([], 0)
  | _ + 1, [] => some ([], 0)
  | fuel + 1, x :: rest =>
    if x == '%' then do
      let (b, cs) ← escapedByte? (x :: rest)
      let width ← widthOf? b
      let (bs, cs) ← escapedTail? (width - 1) cs
      let (text, n) ← tagText full fuel cs
      some (Text.Utf8.decodeLossy ((b :: bs).map Nat.toUInt8) ++ text, n + 3 * width)
    else if isTagChar full x then do
      let (text, n) ← tagText full fuel rest
      some (x :: text, n + 1)
    else some ([], 0)

/-- The text of a tag. -/
def readTagText (full : Bool) (c : Cursor) : Option (List Char × Cursor) :=
  (tagText full (c.rest.length + 1) c.rest).map fun (text, n) => (text, c.skip n)

/-- **A tag**: written in full between angle brackets, by a handle and a rest, or by a rest alone. -/
def readTag (inBrackets : Bool) (c : Cursor) : Option (Token × Cursor) := do
  let (token, c) ← if (c.skip 1).here? == some '<' then do
      let (text, c) ← readTagText true (c.skip 2)
      if text.isEmpty || c.here? != some '>' then none
      pure (Token.tag [] text, c.skip 1)
    else do
      let (handle, closed, c) ← readHandle c
      let (text, c) ← readTagText false c
      if closed then
        if text.isEmpty then none
        pure (Token.tag handle text, c)
      else
        let text := handle.drop 1 ++ text
        pure (if text.isEmpty then Token.tag [] ['!'] else Token.tag ['!'] text, c)
  if (inBrackets && c.here? == some ',') || atGapOrEnd c.rest then some (token, c) else none

/-- A number of a version, of at most nine digits. -/
def versionNumber (c : Cursor) : Option (Nat × Cursor) :=
  let (ds, c) := c.spanWhile Char.isDigit
  if ds.isEmpty || 9 < ds.length then none else some (Text.valueOf ds, c)

/-- **A directive**: its line begins with a percent sign, and only a comment may follow it. -/
def readDirective (c : Cursor) : Option (Token × Cursor) := do
  let (name, c) := (c.skip 1).spanWhile isWord
  if !atGapOrEnd c.rest then none
  let c := c.skipWhile isGap
  let (token, c) ← if name = "YAML".toList then do
      let (major, c) ← versionNumber c
      if c.here? != some '.' then none
      let (minor, c) ← versionNumber (c.skip 1)
      pure (Token.version major minor, c)
    else if name = "TAG".toList then do
      let (handle, closed, c) ← readHandle c
      if !(closed || handle = ['!']) || !(c.here?.map isGap).getD false then none
      let (text, c) ← readTagText true (c.skipWhile isGap)
      if text.isEmpty || !atGapOrEnd c.rest then none
      pure (Token.shorthand handle text, c)
    else none
  let c := c.skipWhile isGap
  let c := if c.here? == some '#' then c.skipWhile (!isBreak ·) else c
  if atLineEnd c.rest then some (token, c.skipLine) else none

/-! ## The state of the cutting -/

/-- A place where a key may begin. -/
structure KeyPlace where
  /-- Nothing but a key fits here. -/
  required : Bool
  /-- How many tokens come before. -/
  number : Nat
  place : Cursor

/-- How far a text is cut. -/
structure Scan where
  cursor : Cursor
  tokens : Array Token
  /-- The column of the innermost indented block, or −1. -/
  indent : Int
  /-- The columns of the blocks around it, the nearest first. -/
  outer : List Int
  /-- A key may begin here. -/
  keyFits : Bool
  /-- The place where a key may have begun, outside of brackets or in the innermost ones. -/
  pending : Option KeyPlace
  /-- The same for the levels around it, the nearest first. -/
  around : List (Option KeyPlace)

namespace Scan

/-- The beginning of a text. -/
def start (cs : List Char) : Scan :=
  ⟨.start cs, #[], -1, [], true, none, []⟩

/-- The place is between brackets or braces. -/
def inBrackets (s : Scan) : Bool :=
  !s.around.isEmpty

/-- One token more. -/
def push (s : Scan) (t : Token) : Scan :=
  { s with tokens := s.tokens.push t }

/-- Some characters further on. -/
def skip (s : Scan) (n : Nat) : Scan :=
  { s with cursor := s.cursor.skip n }

/-- A key may begin here, or may not. -/
def fits (s : Scan) (b : Bool) : Scan :=
  { s with keyFits := b }

/-- Blanks, comments and line ends are passed.  `fuel` bounds their number. -/
def skipBlanks : Nat → Scan → Scan
  | 0, s => s
  | fuel + 1, s =>
    let c := s.cursor
    let c := if c.column == 0 && (c.here?.map isMark).getD false then c.skip 1 else c
    let tabs := s.inBrackets || !s.keyFits
    let c := c.skipWhile fun x => x == ' ' || (tabs && x == '\t')
    let c := if c.here? == some '#' then c.skipWhile (!isBreak ·) else c
    if (c.here?.map isBreak).getD false then
      skipBlanks fuel { s with cursor := c.skipLine, keyFits := s.keyFits || !s.inBrackets }
    else { s with cursor := c }

/-- A key must end on its line and within 1024 characters. -/
def isStale (c : Cursor) (k : KeyPlace) : Bool :=
  k.place.line < c.line || k.place.index + 1024 < c.index

/-- A remembered place that can no longer hold a key is forgotten, unless nothing else fits there. -/
def freshPlace (c : Cursor) : Option KeyPlace → Option (Option KeyPlace)
  | none => some none
  | some k => if isStale c k then (if k.required then none else some none) else some (some k)

/-- All remembered places are looked at. -/
def refreshed (s : Scan) : Option Scan := do
  let pending ← freshPlace s.cursor s.pending
  let around ← s.around.mapM (freshPlace s.cursor)
  some { s with pending, around }

/-- The remembered place of this level is given up. -/
def forget (s : Scan) : Option Scan :=
  if (s.pending.map (·.required)).getD false then none else some { s with pending := none }

/-- This place is remembered, if a key fits here. -/
def remember (s : Scan) : Option Scan :=
  if s.keyFits then do
    let s ← s.forget
    let required := !s.inBrackets && s.indent == s.cursor.column
    some { s with pending := some ⟨required, s.tokens.size, s.cursor⟩ }
  else some s

/-- Blocks that are indented further than a column end. -/
def closeBlocks (column : Int) (s : Scan) : Scan :=
  if s.inBrackets then s else go s.outer s.indent s.tokens
where
  /-- The blocks from the innermost one outwards. -/
  go : List Int → Int → Array Token → Scan
    | o :: os, i, ts => if column < i then go os o (ts.push .blockEnd)
        else { s with tokens := ts, indent := i, outer := o :: os }
    | [], i, ts => { s with tokens := ts, indent := i, outer := [] }

/-- A block begins at a column, unless one is open there. -/
def openBlock (column : Nat) (number : Nat) (t : Token) (s : Scan) : Scan :=
  if !s.inBrackets && s.indent < column then
    { s with outer := s.indent :: s.outer, indent := column, tokens := s.tokens.insertIdxIfInBounds number t }
  else s

/-- A block begins here.  Outside of brackets this is refused where no key fits. -/
def openHere (t : Token) (s : Scan) : Option Scan :=
  if s.inBrackets then some s
  else if s.keyFits then some (s.openBlock s.cursor.column s.tokens.size t) else none

/-- A bracket or a brace opens. -/
def openLevel (t : Token) (s : Scan) : Option Scan := do
  let s ← s.remember
  some { s with
    pending := none, around := s.pending :: s.around, keyFits := true, cursor := s.cursor.skip 1,
    tokens := s.tokens.push t }

/-- A bracket or a brace closes. -/
def closeLevel (t : Token) (s : Scan) : Option Scan := do
  let s ← s.forget
  let s := match s.around with
    | k :: ks => { s with pending := k, around := ks }
    | [] => s
  some (((s.fits false).skip 1).push t)

/-- The colon after a key: it belongs to the remembered place, or to nothing. -/
def colon (s : Scan) : Option Scan := do
  let s ← match s.pending with
    | some k =>
      let s := { s with tokens := s.tokens.insertIdxIfInBounds k.number .key, pending := none }
      some ((s.openBlock k.place.column k.number .mapStart).fits false)
    | none => do
      let s ← s.openHere .mapStart
      some (s.fits !s.inBrackets)
  some ((s.skip 1).push .value)

/-- A line that ends all blocks. -/
def outermost (s : Scan) : Option Scan := do
  let s ← (s.closeBlocks (-1)).forget
  some (s.fits false)

/-- A token that a key may begin with. -/
def word (s : Scan) (read : Cursor → Option (Token × Cursor)) : Option Scan := do
  let s ← s.remember
  let (t, c) ← read s.cursor
  some { s with cursor := c, tokens := s.tokens.push t, keyFits := false }

/-- A plain scalar.  One that ran to a new line is followed by a place where a key fits. -/
def plain (s : Scan) : Option Scan := do
  let s ← s.remember
  let (text, broken, c) ← readPlain s.inBrackets (s.indent + 1).toNat s.cursor
  some { s with cursor := c, tokens := s.tokens.push (.scalar .plain text), keyFits := broken }

/-- A block scalar. -/
def block (literal : Bool) (s : Scan) : Option Scan := do
  let s ← s.forget
  let (text, c) ← readBlock literal s.indent (s.cursor.skip 1)
  let style := if literal then Style.literal else .folded
  some { s with cursor := c, tokens := s.tokens.push (.scalar style text), keyFits := true }

/-- A quoted scalar. -/
def quoted (single : Bool) (s : Scan) : Option Scan :=
  s.word fun c => do
    let (text, c) ← readQuoted single (c.skip 1)
    some (.scalar (if single then .singleQuoted else .doubleQuoted) text, c)

/-- A plain scalar cannot begin with one of these characters. -/
def isIndicator (x : Char) : Bool :=
  "-?:,[]#&*!|>'\"%@".toList.contains x || x.toNat == 0x7B || x.toNat == 0x7D || x.toNat == 0x60

/-- A plain scalar may begin here. -/
def startsPlain (s : Scan) (x : Char) (rest : List Char) : Bool :=
  !(isIndicator x || isGap x || isBreak x)
    || (x == '-' && !(rest.head?.map isGap).getD false)
    || (!s.inBrackets && (x == '?' || x == ':') && !atGapOrEnd rest)

/-- **The next token**, at a place that is no blank.  At the end of the text all blocks end; `true` tells that
the end is reached. -/
def next (s : Scan) : Option (Scan × Bool) :=
  let more (s : Option Scan) : Option (Scan × Bool) := s.map (·, false)
  let c := s.cursor
  match c.rest with
  | [] => s.outermost.map (·, true)
  | x :: rest =>
    let free := atGapOrEnd rest
    if c.column == 0 && x == '%' then more do
      let s ← s.outermost
      let (t, c) ← readDirective s.cursor
      some { s with cursor := c, tokens := s.tokens.push t }
    else if c.atMarks '-' then more (s.outermost.map fun s => (s.skip 3).push .documentStart)
    else if c.atMarks '.' then more (s.outermost.map fun s => (s.skip 3).push .documentEnd)
    else if x == '[' then more (s.openLevel .openBracket)
    else if x.toNat == 0x7B then more (s.openLevel .openBrace)
    else if x == ']' then more (s.closeLevel .closeBracket)
    else if x.toNat == 0x7D then more (s.closeLevel .closeBrace)
    else if x == ',' then more (s.forget.map fun s => ((s.fits true).skip 1).push .comma)
    else if x == '-' && free then more do
      let s ← (← s.openHere .listStart).forget
      some (((s.fits true).skip 1).push .entry)
    else if x == '?' && (s.inBrackets || free) then more do
      let s ← (← s.openHere .mapStart).forget
      some (((s.fits !s.inBrackets).skip 1).push .key)
    else if x == ':' && (s.inBrackets || free) then more s.colon
    else if x == '*' then more (s.word fun c => (readName (c.skip 1)).map fun (n, c) => (.alias n, c))
    else if x == '&' then more (s.word fun c => (readName (c.skip 1)).map fun (n, c) => (.anchor n, c))
    else if x == '!' then more (s.word (readTag s.inBrackets))
    else if (x == '|' || x == '>') && !s.inBrackets then more (s.block (x == '|'))
    else if x == '\'' || x == '"' then more (s.quoted (x == '\''))
    else if s.startsPlain x rest then more s.plain
    else none

/-- Token after token to the end.  `fuel` bounds their number. -/
def run : Nat → Scan → Option (Array Token)
  | 0, _ => none
  | fuel + 1, s => do
    let s ← (skipBlanks (s.cursor.rest.length + 1) s).refreshed
    let (s, ended) ← (s.closeBlocks s.cursor.column).next
    if ended then some s.tokens else run fuel s

end Scan

/-- **The tokens of a text.**  A byte order mark at its beginning is set aside. -/
def Token.all? (cs : List Char) : Option (List Token) := do
  if !cs.all isAllowed then none
  let cs := match cs with
    | x :: rest => if isMark x then rest else cs
    | [] => []
  return (← Scan.run (cs.length + 1) (.start cs)).toList

end PlanBrowser.Yaml
