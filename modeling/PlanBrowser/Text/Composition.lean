import PlanBrowser.Text.Decomposition

/-!
# Canonical composition

Texts that look the same are written in one way: every character is taken apart as far as possible, the marks
after a letter are put in the order of their classes, and then letters and marks are put together again as far as
possible.  A mark reaches its letter only past marks of lower classes.

* `decompose` — characters taken apart;
* `ordered` — marks in the order of their classes;
* `recompose` — characters put together;
* `normal` — **the one way to write a text**.
-/

namespace PlanBrowser.Text

/-! ## Hangul -/

/-- The first syllable. -/
def syllableBase : Nat := 0xAC00

/-- How many syllables there are. -/
def syllableCount : Nat := 11172

/-- The two or three letters of a syllable. -/
def lettersOf? (c : Char) : Option (List Char) :=
  let n := c.toNat
  if n < syllableBase || syllableBase + syllableCount ≤ n then none
  else
    let s := n - syllableBase
    let tail := if s % 28 == 0 then [] else [Char.ofNat (0x11A7 + s % 28)]
    some (Char.ofNat (0x1100 + s / 588) :: Char.ofNat (0x1161 + s % 588 / 28) :: tail)

/-- The syllable of two letters, or of a syllable and a last letter. -/
def syllable? (a b : Char) : Option Char :=
  let x := a.toNat
  let y := b.toNat
  if 0x1100 ≤ x && x < 0x1113 && 0x1161 ≤ y && y < 0x1176 then
    some (Char.ofNat (syllableBase + ((x - 0x1100) * 21 + (y - 0x1161)) * 28))
  else if syllableBase ≤ x && x < syllableBase + syllableCount && (x - syllableBase) % 28 == 0
      && 0x11A7 < y && y < 0x11C3 then
    some (Char.ofNat (x + (y - 0x11A7)))
  else none

/-! ## Taking apart -/

/-- The characters that a character stands for, once. -/
def parts? (c : Char) : Option (List Char) :=
  if c.toNat < 0xC0 then none
  else lettersOf? c <|> composed.value? c <|> exploded.value? c

/-- The characters that a character stands for.  `fuel` bounds how deep they lie. -/
def partsOf : Nat → Char → List Char
  | 0, c => [c]
  | fuel + 1, c =>
    match parts? c with
    | none => [c]
    | some cs => cs.flatMap (partsOf fuel)

/-- **Characters taken apart.** -/
def decompose (cs : List Char) : List Char :=
  cs.flatMap (partsOf 8)

/-! ## Marks in order -/

/-- The class of a mark; other characters have class zero. -/
def classOf (c : Char) : Nat :=
  if c.toNat < 0x300 then 0 else combiningClass.number c

/-- The characters so far, the last one in front, with one more. -/
def sortIn (done : List Char) (c : Char) : List Char :=
  if classOf c == 0 then c :: done else slip done
where
  /-- Marks of higher classes come after. -/
  slip : List Char → List Char
    | [] => [c]
    | x :: xs => if classOf c < classOf x then x :: slip xs else c :: x :: xs

/-- **Marks in the order of their classes.** -/
def ordered (cs : List Char) : List Char :=
  (cs.foldl sortIn []).reverse

/-! ## Putting together -/

/-- The character that two others are written as. -/
def pair? (a b : Char) : Option Char :=
  syllable? a b
    <|> (Array.find? (fun r => r.values == [a.toNat, b.toNat]) composed).map fun r => Char.ofNat r.first

/-- Characters after a letter; `held` are the marks that stay, the last one in front. -/
def recomposeAfter : Char → List Char → List Char → List Char
  | a, held, [] => a :: held.reverse
  | a, held, c :: cs =>
    let reaches := match held with
      | [] => true
      | x :: _ => classOf x < classOf c
    match if reaches then pair? a c else none with
    | some b => recomposeAfter b held cs
    | none =>
      if classOf c == 0 then a :: held.reverse ++ recomposeAfter c [] cs
      else recomposeAfter a (c :: held) cs

/-- **Characters put together.** -/
def recompose (cs : List Char) : List Char :=
  match cs.dropWhile (classOf · != 0) with
  | [] => cs
  | a :: rest => cs.takeWhile (classOf · != 0) ++ recomposeAfter a [] rest

/-- **The one way to write a text.** -/
def normal (cs : List Char) : List Char :=
  if cs.all (·.toNat < 0xC0) then cs else recompose (ordered (decompose cs))

end PlanBrowser.Text
