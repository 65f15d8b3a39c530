/-!
# How alike two words are

Whoever mistypes a word is shown the word that was probably meant.  Two characters **correspond** if they are
equal and stand at about the same place; each corresponds to one other at most.  The likeness of two words
grows with the number of such pairs, and shrinks with the number of pairs that are out of order.

* `pairing` — the characters of two words that correspond;
* `likeness` — a number between zero and one;
* `closest?` — **the most alike of some words**, if one is alike enough.
-/

namespace PlanBrowser.Text

/-- The first unused place from `low` up to `high` with a character, among places counted from `i`. -/
def placeOf? (c : Char) (used : List Nat) (low high : Nat) : Nat → List Char → Option Nat
  | _, [] => none
  | i, b :: bs =>
    if low ≤ i && i < high && b == c && !used.contains i then some i
    else placeOf? c used low high (i + 1) bs

/-- For each character of the first word the place of its counterpart in the second one. -/
def pairing (range : Nat) (b : List Char) : Nat → List Nat → List Char → List (Char × Nat)
  | _, _, [] => []
  | i, used, c :: cs =>
    match placeOf? c used (i - range) (i + range + 1) 0 b with
    | some j => (c, j) :: pairing range b (i + 1) (j :: used) cs
    | none => pairing range b (i + 1) used cs

/-- How far apart characters that correspond may stand. -/
def reach (a b : List Char) : Nat :=
  max a.length b.length / 2 - 1

/-- Half the number of pairs that are out of order. -/
def transposed (b : List Char) (pairs : List (Char × Nat)) : Nat :=
  let inOrder := (b.zipIdx.filter fun x => pairs.any (·.2 == x.2)).map (·.1)
  ((pairs.map (·.1)).zip inOrder |>.filter fun x => x.1 != x.2).length / 2

/-- **The likeness of two words.** -/
def likeness (a b : List Char) : Float :=
  if a.isEmpty && b.isEmpty then 1
  else
    let pairs := pairing (reach a b) b 0 [] a
    let m := pairs.length
    if m == 0 then 0
    else (m.toFloat / a.length.toFloat + m.toFloat / b.length.toFloat
      + (m - transposed b pairs).toFloat / m.toFloat) / 3

/-- **The most alike of some words**, if its likeness is above seven tenths; of several the last. -/
def closest? (word : String) (words : List String) : Option String :=
  (words.foldl (fun best w =>
    let l := likeness word.toList w.toList
    if !(l > 0.7) then best
    else
      match best with
      | some (_, k) => if l < k then best else some (w, l)
      | none => some (w, l)) none).map (·.1)

end PlanBrowser.Text
