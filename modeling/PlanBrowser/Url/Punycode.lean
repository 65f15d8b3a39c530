/-!
# Punycode

A label of a domain name is sent in ASCII.  A label with other characters is written as its ASCII characters
followed by a list of numbers, which say in ascending order of the other characters where each of them goes.
A number is written with letters and digits, in a base of thirty-six with a weight that adapts itself to the
numbers so far.

* `Punycode.encode` — characters to ASCII;
* `Punycode.decode?` — ASCII to characters, if the numbers make sense.
-/

namespace PlanBrowser.Url.Punycode

/-- The digit of a value below thirty-six. -/
def digitOf (n : Nat) : Char :=
  if n < 26 then Char.ofNat (97 + n) else Char.ofNat (22 + n)

/-- The value of a digit, in either case. -/
def valueOf? (c : Char) : Option Nat :=
  if 'a' ≤ c && c ≤ 'z' then some (c.toNat - 97)
  else if 'A' ≤ c && c ≤ 'Z' then some (c.toNat - 65)
  else if '0' ≤ c && c ≤ '9' then some (c.toNat - 22)
  else none

/-- How far the digit at place `k` counts. -/
def threshold (bias k : Nat) : Nat :=
  if k ≤ bias then 1 else if bias + 26 ≤ k then 26 else k - bias

/-- Divides until the number is small. -/
def shrink : Nat → Nat → Nat → Nat
  | 0, _, k => k
  | fuel + 1, delta, k =>
    if 455 < delta then shrink fuel (delta / 35) (k + 36) else k + 36 * delta / (delta + 38)

/-- The bias after a number. -/
def adapt (delta points : Nat) (first : Bool) : Nat :=
  let delta := if first then delta / 700 else delta / 2
  let delta := delta + delta / points
  shrink delta delta 0

/-- The characters of a number; `fuel` bounds their count. -/
def numeral (bias : Nat) : Nat → Nat → Nat → List Char
  | 0, _, _ => []
  | fuel + 1, k, q =>
    let t := threshold bias k
    if q < t then [digitOf q]
    else digitOf (t + (q - t) % (36 - t)) :: numeral bias fuel (k + 36) ((q - t) / (36 - t))

/-- Where the encoding of a label stands. -/
structure State where
  delta : Nat
  bias : Nat
  /-- How many characters have been written. -/
  handled : Nat
  out : List Char

/-- One character of the label, while the occurrences of `n` are being written. -/
def stepChar (basic n : Nat) (st : State) (c : Char) : State :=
  if c.toNat < n then { st with delta := st.delta + 1 }
  else if c.toNat = n then
    { delta := 0
      bias := adapt st.delta (st.handled + 1) (st.handled == basic)
      handled := st.handled + 1
      out := st.out ++ numeral st.bias (st.delta + 1) 36 st.delta }
  else st

/-- Writes the occurrences of the characters in `ms`, an ascending list; `n` is the least that is due. -/
def encodeAll (label : List Char) (basic : Nat) : List Nat → Nat → State → State
  | [], _, st => st
  | m :: ms, n, st =>
    let st := { st with delta := st.delta + (m - n) * (st.handled + 1) }
    let st := label.foldl (stepChar basic m) st
    encodeAll label basic ms (m + 1) { st with delta := st.delta + 1 }

/-- Puts a number into an ascending list, once. -/
def insertOnce (n : Nat) : List Nat → List Nat
  | [] => [n]
  | m :: ms => if n < m then n :: m :: ms else if n = m then m :: ms else m :: insertOnce n ms

/-- **A label in ASCII**, without the mark that says so. -/
def encode (label : List Char) : List Char :=
  let ascii := label.filter (·.toNat < 128)
  let others := (label.filter (128 ≤ ·.toNat)).foldl (fun ms c => insertOnce c.toNat ms) []
  let front := if ascii.isEmpty then [] else ascii ++ ['-']
  (encodeAll label ascii.length others 128 ⟨0, 72, ascii.length, front⟩).out

/-- Reads a number: its value added to `i`, and the rest. -/
def number? (bias : Nat) : Nat → Nat → Nat → List Char → Option (Nat × List Char)
  | _, _, _, [] => none
  | i, w, k, c :: cs => do
    let d ← valueOf? c
    let t := threshold bias k
    let i := i + d * w
    if d < t then some (i, cs) else number? bias i (w * (36 - t)) (k + 36) cs

/-- Reads the numbers and puts each character where it goes; `fuel` bounds the count of numbers. -/
def decodeAll? : Nat → Nat → Nat → Nat → List Char → List Char → Option (List Char)
  | _, _, _, _, out, [] => some out
  | 0, _, _, _, _, _ :: _ => none
  | fuel + 1, n, i, bias, out, c :: cs => do
    let (j, rest) ← number? bias i 1 36 (c :: cs)
    let points := out.length + 1
    let n := n + j / points
    if n.isValidChar then
      let out := out.take (j % points) ++ Char.ofNat n :: out.drop (j % points)
      decodeAll? fuel n (j % points + 1) (adapt (j - i) points (i == 0)) out rest
    else none

/-- The characters before and after the last dash that has something before it; without such a dash there
are only characters after it. -/
def splitLastDash (cs : List Char) : List Char × List Char :=
  match cs.reverse.dropWhile (· != '-') with
  | _ :: c :: front => ((c :: front).reverse, (cs.reverse.takeWhile (· != '-')).reverse)
  | _ => ([], cs)

/-- **The label** that some ASCII characters stand for. -/
def decode? (cs : List Char) : Option (List Char) :=
  let (ascii, numbers) := splitLastDash cs
  if ascii.all (·.toNat < 128) then decodeAll? (numbers.length + 1) 128 0 72 ascii numbers else none

end PlanBrowser.Url.Punycode
