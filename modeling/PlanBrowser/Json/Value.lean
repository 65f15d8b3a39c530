/-!
# JSON values

The value of a JSON text.  Numbers keep the three forms in which they are told apart: naturals of sixty-four
bits, negative integers of sixty-four bits, and doubles (every number written with a fraction or an
exponent, every integer that fits neither word, and the negative zero).

* `Number` — the three forms, each number in exactly one of them;
* `Json` — the value; the members of an object keep the order in which they are listed;
* `Json.member?` — the member of an object under a name.
-/

namespace PlanBrowser

/-- Half as many numbers as a word of sixty-four bits has. -/
abbrev halfWord : Nat := 0x8000000000000000

/-- A JSON number. -/
inductive Json.Number where
  /-- An integer from zero to the largest word. -/
  | natural (n : UInt64)
  /-- The integer `-(k + 1)`. -/
  | belowZero (k : Fin halfWord)
  /-- A double, by its bits. -/
  | real (bits : UInt64)
  deriving Repr, DecidableEq, Inhabited

/-- A JSON value. -/
inductive Json where
  | null
  | bool (b : Bool)
  | number (n : Json.Number)
  | string (s : String)
  | array (items : List Json)
  | object (members : List (String × Json))
  deriving Repr, Inhabited

namespace Json

/-- The integer that a number of the first two forms stands for, if a signed word holds it. -/
def Number.signedWord? : Number → Option Int
  | .natural n => if n.toNat < halfWord then some n.toNat else none
  | .belowZero k => some (-(k.val + 1 : Int))
  | .real _ => none

/-- A count as a JSON number. -/
def count (n : Nat) : Json :=
  .number (.natural n.toUInt64)

/-- The text of a text value. -/
def string? : Json → Option String
  | .string s => some s
  | _ => none

/-- The member of an object under a name. -/
def member? (name : String) : Json → Option Json
  | .object members => (members.find? fun m => m.1 = name).map (·.2)
  | _ => none

/-- A text or nothing. -/
def ofOption (s : Option String) : Json :=
  match s with
  | some s => .string s
  | none => .null

end Json

end PlanBrowser
