import PlanBrowser.Text.Numeral
import PlanBrowser.Text.Pieces

/-!
# Tables over characters

A property of characters is told by a **table**: its rows are runs of characters in ascending order, and a row may
say what its characters become.  A table is written as text, with hexadecimal numbers: `41-5a=61` is the run
from `41` to `5a` whose first character becomes `61`, the second one `62`, and so on; with a colon in place of the
dash only every second character counts; several numbers are parted by plus signs.

* `Row`, `Table` — tables;
* `Table.ofLines` — a table from its text;
* `Table.has`, `Table.value?`, `Table.number` — what a table says of a character.
-/

namespace PlanBrowser.Text

/-- A run of characters. -/
structure Row where
  first : Nat
  last : Nat
  /-- How far the characters of the run are apart. -/
  step : Nat
  /-- What the first character becomes. -/
  values : List Nat
  deriving Repr, DecidableEq, Inhabited

/-- Runs of characters in ascending order. -/
abbrev Table := Array Row

/-- The number that hexadecimal digits spell; other characters count as zero. -/
def hexNumber (cs : List Char) : Nat :=
  cs.foldl (fun n c => 16 * n + (hexDigit? c).getD 0) 0

/-- The row that a text describes. -/
def Row.ofChars (cs : List Char) : Row :=
  let run := cs.takeWhile (· != '=')
  let values := match cs.dropWhile (· != '=') with
    | _ :: vs => (pieces '+' vs).map hexNumber
    | [] => []
  let first := run.takeWhile fun c => c != '-' && c != ':'
  match run.dropWhile fun c => c != '-' && c != ':' with
  | mark :: last => ⟨hexNumber first, hexNumber last, if mark == ':' then 2 else 1, values⟩
  | [] => ⟨hexNumber first, hexNumber first, 1, values⟩

/-- The row holds a character. -/
def Row.has (r : Row) (n : Nat) : Bool :=
  r.first ≤ n && n ≤ r.last && (n - r.first) % r.step == 0

namespace Table

/-- **A table from its text.** -/
def ofLines (lines : List String) : Table :=
  (lines.flatMap fun l => (pieces ' ' l.toList).map Row.ofChars).toArray

/-- The last row of a part of a table that begins at or before a character.  `fuel` bounds the halvings. -/
def search (t : Table) (n : Nat) : Nat → Nat → Nat → Option Row
  | 0, _, _ => none
  | fuel + 1, low, high =>
    if high ≤ low then none
    else if high = low + 1 then t[low]?
    else
      let middle := (low + high) / 2
      match t[middle]? with
      | none => none
      | some r => if r.first ≤ n then search t n fuel middle high else search t n fuel low middle

/-- **The row of a character.** -/
def row? (t : Table) (n : Nat) : Option Row :=
  (t.search n (t.size + 1) 0 t.size).filter (·.has n)

/-- The character is in the table. -/
def has (t : Table) (c : Char) : Bool :=
  (t.row? c.toNat).isSome

/-- What a character becomes: the values of its row, the last of them as far on as the character is. -/
def value? (t : Table) (c : Char) : Option (List Char) :=
  (t.row? c.toNat).map fun r =>
    match r.values with
    | [v] => [Char.ofNat (v + (c.toNat - r.first))]
    | vs => vs.map Char.ofNat

/-- The number of a character's row; zero without one. -/
def number (t : Table) (c : Char) : Nat :=
  ((t.row? c.toNat).bind (·.values.head?)).getD 0

end Table

end PlanBrowser.Text
