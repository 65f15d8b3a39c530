import PlanBrowser.Profile
import PlanBrowser.Session.Snapshot
import PlanBrowser.Text.Blank
import PlanBrowser.Text.Pieces

/-!
# Output

What is shown can be written as a page or as data.  The format is named, or taken from the name of the file.

* `Format` — the two formats;
* `Format.read?`, `Format.ofPath?` — the format of a name and of a file;
* `Session.output`, `Profile.output` — what is written.
-/

namespace PlanBrowser

/-- How output is written. -/
inductive Format where
  | html
  | json
  deriving Repr, DecidableEq, Inhabited

namespace Format

/-- A text between blanks, with its ASCII letters in lower case. -/
def plain (s : String) : List Char :=
  (Text.trimChars s.toList).map Char.toLower

/-- **The format of a name.** -/
def read? (s : String) : Option Format :=
  if plain s = "html".toList || plain s = "htm".toList then some html
  else if plain s = "json".toList then some json
  else none

/-- **The format of a file**, by the ending of its name. -/
def ofPath? (path : String) : Option Format :=
  if Text.endsWith ".json".toList (plain path) then some json
  else if Text.endsWith ".html".toList (plain path) || Text.endsWith ".htm".toList (plain path) then
    some html
  else none

end Format

/-- Data, written on several lines. -/
def Json.document (v : Json) : String :=
  v.spread ++ "\n"

/-- **What is written of a session.** -/
def Session.output (s : Session) : Format → String
  | .html => s.document
  | .json => s.snapshot.toJson.document

/-- **What is written of a profile.** -/
def Profile.output (p : Profile) : Format → String
  | .html => p.document
  | .json => p.toJson.document

end PlanBrowser
