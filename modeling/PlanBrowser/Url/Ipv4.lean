import PlanBrowser.Text.Numeral
import PlanBrowser.Text.Pieces
import PlanBrowser.Url.Percent

/-!
# Addresses of four bytes

A host that ends in a number is an address.  It has up to four numbers between dots, each decimal, octal after
a leading `0`, or hexadecimal after `0x`.  The last number fills all the bytes that the others leave.

* `endsInNumber` — the host must be an address;
* `Ipv4.read?` — the address;
* `Ipv4.written` — four decimal numbers.
-/

namespace PlanBrowser.Url

open PlanBrowser.Text (pieces digits)

/-- The value of digits in a base. -/
def inBase? (base : Nat) (ds : List Char) : Option Nat :=
  ds.foldlM (fun n c => do
    let d ← Text.hexDigit? c
    if d < base then some (base * n + d) else none) 0

/-- A number of an address: decimal, octal after a leading zero, or hexadecimal after `0x`. -/
def addressNumber? (cs : List Char) : Option Nat :=
  match cs with
  | [] => none
  | '0' :: 'x' :: rest | '0' :: 'X' :: rest => inBase? 16 rest
  | '0' :: d :: rest => inBase? 8 (d :: rest)
  | cs => inBase? 10 cs

/-- The parts of a host between its dots, without an empty part at the end. -/
def dotParts (cs : List Char) : List (List Char) :=
  let parts := pieces '.' cs
  if 1 < parts.length && parts.getLast? == some [] then parts.dropLast else parts

/-- **The host ends in a number**, so it must be an address. -/
def endsInNumber (cs : List Char) : Bool :=
  match (dotParts cs).getLast? with
  | none => false
  | some last => (!last.isEmpty && last.all Char.isDigit) || (addressNumber? last).isSome

namespace Ipv4

/-- The address of some numbers: the leading ones are bytes, the last one fills the rest. -/
def ofNumbers? (numbers : List Nat) : Option UInt32 :=
  match numbers.reverse with
  | [] => none
  | last :: front =>
    if 3 < front.length || front.any (255 < ·) || Nat.pow 256 (4 - front.length) ≤ last then none
    else
      let high := front.reverse.foldl (fun n b => 256 * n + b) 0
      some (high * Nat.pow 256 (4 - front.length) + last).toUInt32

/-- **The address** that a host spells. -/
def read? (cs : List Char) : Option UInt32 :=
  match (dotParts cs).mapM addressNumber? with
  | some numbers => ofNumbers? numbers
  | none => none

/-- The bytes of an address. -/
def bytes (a : UInt32) : List Nat :=
  let n := a.toNat
  [n / 16777216, n / 65536 % 256, n / 256 % 256, n % 256]

/-- An address, written. -/
def written (a : UInt32) : List Char :=
  Text.joined ['.'] ((bytes a).map digits)

end Ipv4

end PlanBrowser.Url
