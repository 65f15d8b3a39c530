/-!
# Unsigned decimal numerals

How counts are written and read.  A number is **written** with the fewest ASCII digits; it is **read**
more freely: an optional leading plus sign, then one or more ASCII digits, leading zeros included.  A
reader is given a bound, and a numeral at or past the bound is refused, however many digits it has.

* `digits`, `written` — the decimal digits of a number;
* `digitValue`, `hexDigit?` — the values of decimal and hexadecimal digits;
* `valueOf` — the number that a run of digits stands for;
* `read?` — the number that a numeral below a bound stands for;
* `wordBound` — the bound of sixty-four bit words.
-/

namespace PlanBrowser.Text

/-- Sixty-four bit words hold the numbers below this one. -/
def wordBound : Nat := 0x10000000000000000

/-- The decimal digits of a number, most significant first. -/
def digits (n : Nat) : List Char :=
  Nat.toDigits 10 n

/-- The decimal text of a number. -/
def written (n : Nat) : String :=
  String.ofList (digits n)

/-- The value of one ASCII digit. -/
def digitValue (c : Char) : Nat :=
  c.toNat - '0'.toNat

/-- The value of a hexadecimal digit. -/
def hexDigit? (c : Char) : Option Nat :=
  if '0' ≤ c && c ≤ '9' then some (c.toNat - 48)
  else if 'a' ≤ c && c ≤ 'f' then some (c.toNat - 87)
  else if 'A' ≤ c && c ≤ 'F' then some (c.toNat - 55)
  else none

/-- The number that a run of digits stands for. -/
def valueOf (ds : List Char) : Nat :=
  ds.foldl (fun n c => 10 * n + digitValue c) 0

/-- The digits of a numeral, once its optional plus sign is set aside. -/
def unsigned (cs : List Char) : List Char :=
  match cs with
  | '+' :: rest => rest
  | _ => cs

/-- **Reading a numeral** below `bound`: an optional plus sign and at least one digit, nothing else. -/
def read? (bound : Nat) (cs : List Char) : Option Nat :=
  let ds := unsigned cs
  if ds.isEmpty || !ds.all Char.isDigit then none
  else if valueOf ds < bound then some (valueOf ds) else none

/-- A word numeral, read from a text. -/
def readWord? (s : String) : Option Nat :=
  read? wordBound s.toList

end PlanBrowser.Text
