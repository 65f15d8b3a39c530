import PlanBrowser.Text.Pieces
import PlanBrowser.Url.Percent

/-!
# Parameters of a query

A query is a list of **parameters**, pairs of a key and a value, between ampersands.  It is read leniently:
empty pieces are passed over, a piece without an equals sign is a key with an empty value, a plus sign is a
space, and bytes that are no text become replacement characters.  It is written strictly: letters, digits and
four marks as they are, a space as a plus sign, all else in percent codes.

* `readParameters` — the parameters of a query;
* `writeParameters` — the query of parameters.
-/

namespace PlanBrowser.Url

open PlanBrowser.Text

/-- A key and a value. -/
abbrev Parameter := String × String

/-- One side of a parameter, read. -/
def readPart (cs : List Char) : String :=
  String.ofList (Utf8.decodeLossy (percentDecode (cs.map fun c => if c = '+' then ' ' else c)))

/-- A parameter, read from what stands between two ampersands. -/
def readParameter (cs : List Char) : Parameter :=
  match cutFirst? '=' cs with
  | some (key, value) => (readPart key, readPart value)
  | none => (readPart cs, "")

/-- **The parameters of a query.** -/
def readParameters (query : List Char) : List Parameter :=
  ((pieces '&' query).filter (!·.isEmpty)).map readParameter

/-- A character that a query holds as it is. -/
def isBare (c : Char) : Bool :=
  c.isAlphanum || c == '*' || c == '-' || c == '.' || c == '_'

/-- One character of a parameter, written. -/
def writeChar (c : Char) : List Char :=
  if isBare c then [c] else if c = ' ' then ['+'] else (Utf8.encodeChar c).flatMap percentCode

/-- One side of a parameter, written. -/
def writePart (s : String) : List Char :=
  s.toList.flatMap writeChar

/-- A parameter, written. -/
def writeParameter (p : Parameter) : List Char :=
  writePart p.1 ++ '=' :: writePart p.2

/-- **The query of some parameters.** -/
def writeParameters (ps : List Parameter) : List Char :=
  joined ['&'] (ps.map writeParameter)

end PlanBrowser.Url
