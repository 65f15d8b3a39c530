import PlanBrowser.Text.Pieces
import PlanBrowser.Url.Percent

/-!
# Addresses of eight groups

An address in brackets: eight groups of up to four hexadecimal digits between colons.  One run of zero groups
may be left out, which leaves two colons; the last two groups may be written as an address of four bytes.
When an address is written, its longest run of at least two zero groups is left out, the first one of several.

* `Ipv6.read?` — the address;
* `Ipv6.written` — its text.
-/

namespace PlanBrowser.Url.Ipv6

/-- The groups that have been read, in reverse, and how many of them precede the run that is left out. -/
structure Progress where
  groups : List Nat
  gap : Option Nat

/-- How many of the eight places are taken; the run that is left out takes at least one. -/
def Progress.taken (p : Progress) : Nat :=
  p.groups.length + (if p.gap.isSome then 1 else 0)

/-- The next group. -/
def Progress.push (p : Progress) (n : Nat) : Progress :=
  { p with groups := n :: p.groups }

/-- Up to `limit` hexadecimal digits at the front: their value, their number, and the rest. -/
def hexRun : Nat → Nat → List Char → Nat × Nat × List Char
  | limit + 1, n, c :: cs =>
    match Text.hexDigit? c with
    | some d =>
      let (value, count, rest) := hexRun limit (16 * n + d) cs
      (value, count + 1, rest)
    | none => (n, 0, c :: cs)
  | _, n, cs => (n, 0, cs)

/-- A decimal number of one byte without leading zeros. -/
def byte? (ds : List Char) : Option Nat :=
  match ds with
  | [] => none
  | ['0'] => some 0
  | '0' :: _ => none
  | ds =>
    if ds.length ≤ 3 && ds.all Char.isDigit then
      let n := ds.foldl (fun n c => 10 * n + (c.toNat - 48)) 0
      if n ≤ 255 then some n else none
    else none

/-- The two groups of an address of four bytes. -/
def dotted? (cs : List Char) : Option (Nat × Nat) :=
  match (Text.pieces '.' cs).mapM byte? with
  | some [a, b, c, d] => some (256 * a + b, 256 * c + d)
  | _ => none

/-- Reads groups up to the end.  `fuel` bounds their number: every round takes a place, and there are eight. -/
def groups? : Nat → Progress → List Char → Option Progress
  | _, p, [] => some p
  | 0, _, _ :: _ => none
  | fuel + 1, p, c :: cs =>
    if p.taken = 8 then none
    else if c = ':' then
      if p.gap.isSome then none else groups? fuel { p with gap := some p.groups.length } cs
    else
      let (value, count, rest) := hexRun 4 0 (c :: cs)
      match rest with
      | [] => groups? fuel (p.push value) []
      | '.' :: _ =>
        if count = 0 || 6 < p.taken then none
        else (dotted? (c :: cs)).map fun (a, b) => (p.push a).push b
      | ':' :: rest => if rest.isEmpty then none else groups? fuel (p.push value) rest
      | _ => none

/-- The eight groups, with zeros for the run that was left out. -/
def Progress.eight? (p : Progress) : Option (List Nat) :=
  let groups := p.groups.reverse
  match p.gap with
  | some at_ => some (groups.take at_ ++ List.replicate (8 - groups.length) 0 ++ groups.drop at_)
  | none => if groups.length = 8 then some groups else none

/-- **The address** that is written between brackets, as its eight groups. -/
def read? (cs : List Char) : Option (List Nat) :=
  match cs with
  | ':' :: ':' :: rest => (groups? 9 ⟨[], some 0⟩ rest).bind Progress.eight?
  | ':' :: _ => none
  | cs => (groups? 9 ⟨[], none⟩ cs).bind Progress.eight?

/-- The length of the run of zero groups at the front. -/
def zeroRun (groups : List Nat) : Nat :=
  (groups.takeWhile (· == 0)).length

/-- Where the longest run of zero groups begins and how long it is; of several the first. -/
def longestRun (groups : List Nat) : Nat × Nat :=
  (List.range groups.length).foldl (fun best i =>
    let n := zeroRun (groups.drop i)
    if best.2 < n then (i, n) else best) (0, 0)

/-- Groups between colons. -/
def colons (groups : List Nat) : List Char :=
  Text.joined [':'] (groups.map (Nat.toDigits 16))

/-- **An address, written.** -/
def written (groups : List Nat) : List Char :=
  let (start, length) := longestRun groups
  if length < 2 then colons groups
  else colons (groups.take start) ++ [':', ':'] ++ colons (groups.drop (start + length))

end PlanBrowser.Url.Ipv6
