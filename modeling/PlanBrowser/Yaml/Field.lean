import PlanBrowser.Text.Numeral
import PlanBrowser.Yaml.Node

/-!
# Values of a YAML mapping

What a scalar is taken for depends on what is asked for.  Any scalar is a **text**.  A **number** and a **flag**
must be plain, or be literal and say by their tag what they are.  A plain scalar is **null** if it is empty or
one of four words.

* `Scalar.isNull?`, `Scalar.number?`, `Scalar.flag?` — the readings of a scalar;
* `Document.fields?` — the fields of the mapping that a document is;
* `Document.field?` — **one field**: nothing, null, or a value.
-/

namespace PlanBrowser.Yaml

/-- The tag of a standard kind of scalar. -/
def standardTag (kind : String) : List Char :=
  "tag:yaml.org,2002:".toList ++ kind.toList

namespace Scalar

/-- One of the words for nothing. -/
def isNullWord (cs : List Char) : Bool :=
  ["~", "null", "Null", "NULL"].any (·.toList == cs)

/-- The scalar stands for nothing.  One that is marked so must say so. -/
def isNull? (s : Scalar) : Option Bool :=
  if s.style != .plain then some false
  else
    match s.tag with
    | some t =>
      if t != standardTag "null" then some false else if isNullWord s.text then some true else none
    | none => some (s.text.isEmpty || isNullWord s.text)

/-- The scalar may stand for something else than a text. -/
def isOpen (kind : String) (s : Scalar) : Bool :=
  s.style == .plain || (s.style == .literal && s.tag == some (standardTag kind))

/-- Digits of a base, at least one. -/
def inBase? (base : Nat) (cs : List Char) : Option Nat := do
  if cs.isEmpty then none
  cs.foldlM (fun n c => do
    let d ← Text.hexDigit? c
    if d < base then some (base * n + d) else none) 0

/-- An unsigned numeral: hexadecimal, octal or binary after its mark, or decimal without leading zeros. -/
def numeral? (cs : List Char) : Option Nat :=
  match Text.unsigned cs with
  | '0' :: 'x' :: ds => inBase? 16 ds
  | '0' :: 'o' :: ds => inBase? 8 ds
  | '0' :: 'b' :: ds => inBase? 2 ds
  | '0' :: _ :: _ => none
  | ds => inBase? 10 ds

/-- A word numeral. -/
def number? (s : Scalar) : Option Nat := do
  if !s.isOpen "int" then none
  let n ← numeral? s.text
  if n < Text.wordBound then some n else none

/-- Yes or no. -/
def flag? (s : Scalar) : Option Bool :=
  if !s.isOpen "bool" then none
  else if ["true", "True", "TRUE"].any (·.toList == s.text) then some true
  else if ["false", "False", "FALSE"].any (·.toList == s.text) then some false
  else none

/-- A text. -/
def text? (s : Scalar) : Option String :=
  some (String.ofList s.text)

end Scalar

/-- The scalar that a node is or stands for. -/
def Document.scalar? (d : Document) : Node → Option Scalar
  | .scalar s => some s
  | .alias n =>
    match d.anchored? n with
    | some (.scalar s) => some s
    | _ => none
  | _ => none

/-- The fields of a mapping in their order.  An empty document has none. -/
def Document.fields? (d : Document) : Option (List (List Char × Node)) :=
  match d.root with
  | none => some []
  | some (.mapping es) => es.mapM fun (k, v) => (d.scalar? k).map fun s => (s.text, v)
  | some (.scalar s) => if s.style == .plain && s.text.isEmpty then some [] else none
  | some _ => none

/-- **The field of some names**, which may stand only once; null is as good as no field. -/
def Document.field? {α : Type} (d : Document) (read : Scalar → Option α)
    (fields : List (List Char × Node)) (names : List String) : Option (Option α) :=
  match fields.filter fun f => names.any (·.toList == f.1) with
  | [] => some none
  | [(_, v)] => do
    let s ← d.scalar? v
    if ← s.isNull? then some none else (← read s)
  | _ => none

end PlanBrowser.Yaml
