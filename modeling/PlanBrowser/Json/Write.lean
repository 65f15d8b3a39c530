import PlanBrowser.Json.Value
import PlanBrowser.Number.Shortest
import PlanBrowser.Text.Numeral

/-!
# Writing JSON

Two layouts of one value.  The **compact** layout has no blanks; it is what is sent.  The **spread** layout
puts each item and each member on a line of its own, indented by two spaces a level; it is what is shown.

A text is quoted with five short escapes and `\u00xx` for the other controls below `U+0020`; every other
character is written as it is.  An integer is its decimal digits.  A double is the shortest decimal that
reads back, written positionally while its leading digit stands for `10 ^ -5` up to `10 ^ 15` (with `.0`
after an integral value), else with one digit before the point and a signed exponent.

* `quoted` — a text between quotation marks;
* `Number.digits`, `realDigits` — a number;
* `Json.compact`, `Json.spread` — a value.
-/

namespace PlanBrowser.Json

open PlanBrowser.Text (digits)

/-- A hexadecimal digit in lower case. -/
def hexDigit (n : Nat) : Char :=
  if n < 10 then Char.ofNat (48 + n) else Char.ofNat (87 + n)

/-- One character inside quotation marks. -/
def escaped (c : Char) : List Char :=
  if c = '"' then ['\\', '"']
  else if c = '\\' then ['\\', '\\']
  else if c.toNat = 8 then ['\\', 'b']
  else if c.toNat = 9 then ['\\', 't']
  else if c.toNat = 10 then ['\\', 'n']
  else if c.toNat = 12 then ['\\', 'f']
  else if c.toNat = 13 then ['\\', 'r']
  else if c.toNat < 32 then ['\\', 'u', '0', '0', hexDigit (c.toNat / 16), hexDigit (c.toNat % 16)]
  else [c]

/-- A text between quotation marks. -/
def quoted (s : String) : List Char :=
  '"' :: s.toList.flatMap escaped ++ ['"']

/-- The least power of ten that the leading digit may stand for in positional notation. -/
def positionalFrom : Int := -5

/-- The greatest power of ten that the leading digit may stand for in positional notation. -/
def positionalTo : Int := 15

/-- The decimal `n · 10 ^ e`, laid out. -/
def decimalDigits (n : Nat) (e : Int) : List Char :=
  let ds := digits n
  let leading := e + ds.length - 1
  if n = 0 then ['0', '.', '0']
  else if positionalFrom ≤ leading && leading ≤ positionalTo then
    if 0 ≤ e then ds ++ List.replicate e.toNat '0' ++ ['.', '0']
    else if 0 ≤ leading then
      ds.take (leading + 1).toNat ++ '.' :: ds.drop (leading + 1).toNat
    else ['0', '.'] ++ List.replicate (-leading - 1).toNat '0' ++ ds
  else
    let fraction := match ds.drop 1 with
      | [] => []
      | rest => '.' :: rest
    ds.take 1 ++ fraction ++ ['e', if leading < 0 then '-' else '+'] ++ digits leading.natAbs

/-- A double, written; one that is no finite number has no written form and is written as `null`. -/
def realDigits (bits : UInt64) : List Char :=
  match Number.Binary.ofBits? bits with
  | none => ['n', 'u', 'l', 'l']
  | some b =>
    let (n, e) := b.shortest
    (if b.negative then ['-'] else []) ++ decimalDigits n e

/-- A number, written. -/
def Number.digits : Number → List Char
  | .natural n => Text.digits n.toNat
  | .belowZero k => '-' :: Text.digits (k.val + 1)
  | .real bits => realDigits bits

mutual

/-- **The compact layout.** -/
def compact : Json → List Char
  | .null => ['n', 'u', 'l', 'l']
  | .bool true => ['t', 'r', 'u', 'e']
  | .bool false => ['f', 'a', 'l', 's', 'e']
  | .number n => n.digits
  | .string s => quoted s
  | .array [] => ['[', ']']
  | .array (v :: vs) => '[' :: compact v ++ compactItems vs ++ [']']
  | .object [] => ['{', '}']
  | .object (m :: ms) => '{' :: quoted m.1 ++ ':' :: compact m.2 ++ compactMembers ms ++ ['}']

/-- The items after the first. -/
def compactItems : List Json → List Char
  | [] => []
  | v :: vs => ',' :: compact v ++ compactItems vs

/-- The members after the first. -/
def compactMembers : List (String × Json) → List Char
  | [] => []
  | m :: ms => ',' :: quoted m.1 ++ ':' :: compact m.2 ++ compactMembers ms

end

/-- A line end and the indentation of a level. -/
def freshLine (level : Nat) : List Char :=
  '\n' :: List.replicate (2 * level) ' '

mutual

/-- **The spread layout** of a value that stands at an indentation level. -/
def spreadAt (level : Nat) : Json → List Char
  | .array (v :: vs) =>
    '[' :: freshLine (level + 1) ++ spreadAt (level + 1) v ++ spreadItems level vs
      ++ freshLine level ++ [']']
  | .object (m :: ms) =>
    '{' :: freshLine (level + 1) ++ quoted m.1 ++ [':', ' '] ++ spreadAt (level + 1) m.2
      ++ spreadMembers level ms ++ freshLine level ++ ['}']
  | .null => ['n', 'u', 'l', 'l']
  | .bool true => ['t', 'r', 'u', 'e']
  | .bool false => ['f', 'a', 'l', 's', 'e']
  | .number n => n.digits
  | .string s => quoted s
  | .array [] => ['[', ']']
  | .object [] => ['{', '}']

/-- The items after the first, each on a line of its own. -/
def spreadItems (level : Nat) : List Json → List Char
  | [] => []
  | v :: vs => ',' :: freshLine (level + 1) ++ spreadAt (level + 1) v ++ spreadItems level vs

/-- The members after the first, each on a line of its own. -/
def spreadMembers (level : Nat) : List (String × Json) → List Char
  | [] => []
  | m :: ms =>
    ',' :: freshLine (level + 1) ++ quoted m.1 ++ [':', ' '] ++ spreadAt (level + 1) m.2
      ++ spreadMembers level ms

end

/-- The compact text of a value. -/
def text (v : Json) : String :=
  String.ofList v.compact

/-- The spread text of a value. -/
def spread (v : Json) : String :=
  String.ofList (v.spreadAt 0)

end PlanBrowser.Json
