import PlanBrowser.Text.Utf8

/-!
# Base 64

Bytes in letters: six bits a letter, three bytes in four letters.  Two alphabets differ in their last two
letters.  The **plain** one is used for credentials and is filled up with equals signs; the **URL** one is used
in tokens, without them.  Reading is strict: a single letter at the end, or bits at the end that belong to no
byte and are not zero, are refused.

* `Alphabet` — the two alphabets;
* `encode`, `encodeFilled` — bytes to letters;
* `decode?` — letters to bytes.
-/

namespace PlanBrowser.Base64

/-- The two alphabets. -/
inductive Alphabet where
  | plain
  | url
  deriving Repr, DecidableEq

/-- The letter of six bits. -/
def letter (a : Alphabet) (n : Nat) : Char :=
  if n < 26 then Char.ofNat (65 + n)
  else if n < 52 then Char.ofNat (71 + n)
  else if n < 62 then Char.ofNat (n - 4)
  else if n = 62 then (match a with | .plain => '+' | .url => '-')
  else (match a with | .plain => '/' | .url => '_')

/-- The six bits of a letter. -/
def value? (a : Alphabet) (c : Char) : Option Nat :=
  if 'A' ≤ c && c ≤ 'Z' then some (c.toNat - 65)
  else if 'a' ≤ c && c ≤ 'z' then some (c.toNat - 71)
  else if '0' ≤ c && c ≤ '9' then some (c.toNat + 4)
  else match a with
    | .plain => if c = '+' then some 62 else if c = '/' then some 63 else none
    | .url => if c = '-' then some 62 else if c = '_' then some 63 else none

/-- **Bytes in letters**, without filling. -/
def encode (a : Alphabet) : List UInt8 → List Char
  | x :: y :: z :: rest =>
    letter a (x.toNat / 4) :: letter a (x.toNat % 4 * 16 + y.toNat / 16)
      :: letter a (y.toNat % 16 * 4 + z.toNat / 64) :: letter a (z.toNat % 64) :: encode a rest
  | [x, y] =>
    [letter a (x.toNat / 4), letter a (x.toNat % 4 * 16 + y.toNat / 16), letter a (y.toNat % 16 * 4)]
  | [x] => [letter a (x.toNat / 4), letter a (x.toNat % 4 * 16)]
  | [] => []

/-- Bytes in letters, filled up to a multiple of four. -/
def encodeFilled (a : Alphabet) (bytes : List UInt8) : List Char :=
  encode a bytes ++ List.replicate ((3 - bytes.length % 3) % 3) '='

/-- **Letters to bytes.** -/
def decode? (a : Alphabet) : List Char → Option (List UInt8)
  | c :: d :: e :: f :: rest => do
    let w ← value? a c
    let x ← value? a d
    let y ← value? a e
    let z ← value? a f
    let bytes ← decode? a rest
    some ((w * 4 + x / 16).toUInt8 :: (x % 16 * 16 + y / 4).toUInt8 :: (y % 4 * 64 + z).toUInt8 :: bytes)
  | [c, d, e] => do
    let w ← value? a c
    let x ← value? a d
    let y ← value? a e
    if y % 4 = 0 then some [(w * 4 + x / 16).toUInt8, (x % 16 * 16 + y / 4).toUInt8] else none
  | [c, d] => do
    let w ← value? a c
    let x ← value? a d
    if x % 16 = 0 then some [(w * 4 + x / 16).toUInt8] else none
  | [_] => none
  | [] => some []

end PlanBrowser.Base64
