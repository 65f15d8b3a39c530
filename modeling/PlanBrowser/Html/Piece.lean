import PlanBrowser.Html.Escape
import PlanBrowser.Text.Numeral

/-!
# Pieces of a page

A page is put together from pieces.  A piece of **markup** is written as it is; a piece of **text** is
escaped.  Whatever comes from a user, a planner or a link enters a page as text, so it cannot add to the
markup around it.

* `Piece` — the two kinds;
* `number` — a natural number, as markup;
* `flag` — an attribute that is there or not;
* `render` — the written form of a list of pieces.
-/

namespace PlanBrowser.Html

/-- A piece of a page. -/
inductive Piece where
  /-- Written as it is. -/
  | markup (s : String)
  /-- Escaped. -/
  | text (s : String)
  deriving Repr, DecidableEq, Inhabited

/-- The written form of a piece. -/
def Piece.chars : Piece → List Char
  | .markup s => s.toList
  | .text s => escapeChars s.toList

/-- A natural number; its digits need no escaping. -/
def number (n : Nat) : Piece :=
  .markup (Text.written n)

/-- Markup that is there only under a condition. -/
def flag (present : Bool) (s : String) : Piece :=
  .markup (if present then s else "")

/-- The written form of pieces, one after the other. -/
def chars (ps : List Piece) : List Char :=
  ps.flatMap Piece.chars

/-- **The written form** of pieces, as a text. -/
def render (ps : List Piece) : String :=
  String.ofList (chars ps)

end PlanBrowser.Html
