import PlanBrowser.Text.Blank
import PlanBrowser.Text.Pieces
import PlanBrowser.Text.Utf8

/-!
# Header lines

A user may add a header to every request, as a line `Key: Value`.  The name is a token in lower case; the value
holds no control character but the tab, so that no value can begin a header of its own.

* `Header` — a name and a value;
* `Header.Fault` — why there is no header;
* `Header.read`, `Header.cookie` — the header of a line and of a session token.
-/

namespace PlanBrowser

/-- A header of a request. -/
structure Header where
  name : String
  value : String
  deriving Repr, DecidableEq, Inhabited

namespace Header

/-- Why there is no header. -/
inductive Fault where
  | noColon (line : String)
  | badName
  | badValue
  | badCookie
  deriving Repr, DecidableEq

/-- A fault in words. -/
def Fault.message : Fault → String
  | noColon line => "expected 'Key: Value', got '" ++ line ++ "'"
  | badName => "invalid header name: invalid HTTP header name"
  | badValue => "invalid header value: failed to parse header value"
  | badCookie => "invalid JWT cookie: failed to parse header value"

/-- The marks that a name may hold besides letters and digits. -/
def nameMarks : List Char :=
  ['!', '"', '#', '$', '%', '&', '\'', '*', '+', '-', '.', '^', '_', Char.ofNat 0x60, '|', '~']

/-- A character of a name. -/
def isNameChar (c : Char) : Bool :=
  c.isAlphanum || nameMarks.contains c

/-- The longest name. -/
def longestName : Nat := 65535

/-- A character of a value. -/
def isValueChar (c : Char) : Bool :=
  c == '\t' || (0x20 ≤ c.toNat && c.toNat != 0x7F)

/-- A name, in lower case. -/
def readName? (cs : List Char) : Option String :=
  if cs.isEmpty || longestName < cs.length || !cs.all isNameChar then none
  else some (String.ofList (cs.map Char.toLower))

/-- A value. -/
def readValue? (cs : List Char) : Option String :=
  if cs.all isValueChar then some (String.ofList cs) else none

/-- **The header of a line**: the name before the first colon and the value after it, both trimmed. -/
def read (line : String) : Except Fault Header :=
  match Text.cutFirst? ':' line.toList with
  | none => .error (.noColon line)
  | some (name, value) =>
    match readName? (Text.trimChars name), readValue? (Text.trimChars value) with
    | none, _ => .error .badName
    | some _, none => .error .badValue
    | some name, some value => .ok ⟨name, value⟩

/-- **The cookie of a session token.** -/
def cookie (token : String) : Except Fault Header :=
  match readValue? ("JWT=".toList ++ Text.trimChars token.toList) with
  | some value => .ok ⟨"cookie", value⟩
  | none => .error .badCookie

end Header

end PlanBrowser
