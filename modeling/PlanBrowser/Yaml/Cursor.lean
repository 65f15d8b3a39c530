/-!
# Places in a YAML text

Indentation matters in YAML, so a text is read through a **cursor** that knows its line and its column.  A line
ends at a line feed, a carriage return, both together, or one of three rarer characters.  Most controls may
not occur at all.

* `isAllowed`, `isBreak`, `isGap` — characters;
* `Cursor` — a place in a text, and `Cursor.skip`, `Cursor.skipLine`, the ways ahead;
* `Cursor.atIndicator` — a line that begins or ends a document.
-/

namespace PlanBrowser.Yaml

/-- A character that may occur in a text. -/
def isAllowed (c : Char) : Bool :=
  let n := c.toNat
  n == 9 || n == 10 || n == 13 || (0x20 ≤ n && n ≤ 0x7E) || n == 0x85 || (0xA0 ≤ n && n ≤ 0xFFFD)
    || 0x10000 ≤ n

/-- The byte order mark. -/
def isMark (c : Char) : Bool :=
  c.toNat == 0xFEFF

/-- A character that ends a line. -/
def isBreak (c : Char) : Bool :=
  let n := c.toNat
  n == 10 || n == 13 || n == 0x85 || n == 0x2028 || n == 0x2029

/-- A space or a tab. -/
def isGap (c : Char) : Bool :=
  c == ' ' || c == '\t'

/-- A character of a name: a letter, a digit, an underscore or a dash. -/
def isWord (c : Char) : Bool :=
  c.isAlphanum || c == '_' || c == '-'

/-- A gap, a line end or the end of the text is at the front. -/
def atGapOrEnd : List Char → Bool
  | [] => true
  | c :: _ => isGap c || isBreak c

/-- A line end or the end of the text is at the front. -/
def atLineEnd : List Char → Bool
  | [] => true
  | c :: _ => isBreak c

/-- A place in a text. -/
structure Cursor where
  /-- The text from here on. -/
  rest : List Char
  /-- How many characters come before. -/
  index : Nat
  line : Nat
  /-- How many characters of this line come before. -/
  column : Nat
  deriving Inhabited

namespace Cursor

/-- The beginning of a text. -/
def start (cs : List Char) : Cursor :=
  ⟨cs, 0, 0, 0⟩

/-- The character here. -/
def here? (c : Cursor) : Option Char :=
  c.rest.head?

/-- Some characters of one line further on. -/
def skip (c : Cursor) (n : Nat) : Cursor :=
  { c with rest := c.rest.drop n, index := c.index + n, column := c.column + n }

/-- The beginning of the next line, from the end of this one. -/
def skipLine (c : Cursor) : Cursor :=
  match c.rest with
  | '\r' :: '\n' :: rest => ⟨rest, c.index + 2, c.line + 1, 0⟩
  | b :: rest => if isBreak b then ⟨rest, c.index + 1, c.line + 1, 0⟩ else c
  | [] => c

/-- The line end here, as it counts in a text: the two rarest stand for themselves. -/
def lineBreak (c : Cursor) : List Char :=
  match c.rest with
  | b :: _ =>
    if b.toNat == 0x2028 || b.toNat == 0x2029 then [b] else if isBreak b then ['\n'] else []
  | [] => []

/-- The characters of this line, as long as they pass a test, and the place after them. -/
def spanWhile (c : Cursor) (p : Char → Bool) : List Char × Cursor :=
  let cs := c.rest.takeWhile p
  (cs, c.skip cs.length)

/-- The place after all characters of this line that pass a test. -/
def skipWhile (c : Cursor) (p : Char → Bool) : Cursor :=
  (c.spanWhile p).2

/-- Three equal characters at the beginning of a line, and nothing directly after them. -/
def atMarks (c : Cursor) (mark : Char) : Bool :=
  match c.rest with
  | x :: y :: z :: rest => c.column == 0 && x == mark && y == mark && z == mark && atGapOrEnd rest
  | _ => false

/-- **A line that begins or ends a document.** -/
def atIndicator (c : Cursor) : Bool :=
  c.atMarks '-' || c.atMarks '.'

end Cursor

end PlanBrowser.Yaml
