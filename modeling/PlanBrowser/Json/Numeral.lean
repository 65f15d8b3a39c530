import PlanBrowser.Json.Source
import PlanBrowser.Json.Value
import PlanBrowser.Text.Numeral

/-!
# Reading JSON numbers

A number is a sign, an integer part without superfluous zeros, an optional fraction and an optional
exponent.  Without the last two it is an integer, kept exactly when a word holds it.  Every other number
becomes a double, in two roundings: its digits, as many as a word holds, are taken as one integer and
rounded, and the result is multiplied or divided by a power of ten.  The product that exceeds every
double is refused.

* `digitRun` — the digits at the front of a source;
* `Digits.absorb` — digits taken up while a word holds them, the rest counted;
* `scaled?` — the double of an integer and a power of ten;
* `readNumber` — a number, after its sign;
* `skipNumber` — a number that nobody looks at: its grammar only.
-/

namespace PlanBrowser.Json

/-- The value of a decimal digit. -/
def digit? : Option Char → Option Nat
  | some c => if c.isDigit then some (c.toNat - 48) else none
  | none => none

/-- The digits at the front of a source, and the source after them. -/
def digitRun : Source → List Nat × Source
  | [] => ([], [])
  | x :: rest =>
    match digit? x with
    | some d => (d :: (digitRun rest).1, (digitRun rest).2)
    | none => ([], x :: rest)

/-- The integer of the digits so far, as long as a word holds it, and how many digits came after that. -/
structure Digits where
  value : Nat
  /-- Digits left out because the word was full. -/
  left : Nat
  /-- Digits taken up. -/
  taken : Nat

/-- Takes up digits until the word is full. -/
def Digits.absorb (st : Digits) : List Nat → Digits
  | [] => st
  | d :: ds =>
    if st.left = 0 && st.value * 10 + d < Text.wordBound then
      Digits.absorb { st with value := st.value * 10 + d, taken := st.taken + 1 } ds
    else Digits.absorb { st with left := st.left + 1 } ds

/-- The double `x / 10 ^ k` for a power that may exceed every double. -/
def lowered : Nat → Float → Nat → Float
  | 0, x, _ => x
  | fuel + 1, x, k =>
    if k ≤ 308 then x / Float.ofScientific 1 false k
    else if x == 0 then x
    else lowered fuel (x / Float.ofScientific 1 false 308) (k - 308)

/-- **The double of `n · 10 ^ e`**, rounded twice; nothing when it exceeds every double. -/
def scaled? (n : Nat) (e : Int) : Option Float :=
  let x := n.toUInt64.toFloat
  if e < 0 then some (lowered 4 x (-e).toNat)
  else if e ≤ 308 then
    let y := x * Float.ofScientific 1 false e.toNat
    if y.isInf then none else some y
  else if n = 0 then some x
  else none

/-- A double with a sign as a JSON number. -/
def Number.ofReal (negative : Bool) (x : Float) : Number :=
  .real (if negative then -x else x).toBits

/-- An integer with a sign as a JSON number: the negative zero and what no word holds are doubles. -/
def Number.ofInteger (negative : Bool) (n : Nat) : Number :=
  if !negative then .natural n.toUInt64
  else if h : 0 < n ∧ n ≤ halfWord then .belowZero ⟨n - 1, by omega⟩
  else .ofReal true n.toUInt64.toFloat

/-- The digits that must follow a point. -/
def fractionRun (src : Source) : Except Fault (List Nat × Source) :=
  match digitRun src with
  | ([], []) => .error .ended
  | ([], _) => .error .grammar
  | run => .ok run

/-- The sign and the digits of an exponent, after its mark. -/
def exponentRun (src : Source) : Except Fault (Bool × List Nat × Source) :=
  let (negative, src) := match src with
    | some '+' :: rest => (false, rest)
    | some '-' :: rest => (true, rest)
    | _ => (false, src)
  match digitRun src with
  | ([], []) => .error .ended
  | ([], _) => .error .grammar
  | (ds, src) => .ok (negative, ds, src)

/-- The largest exponent that is counted; past it the number is zero or out of range. -/
def exponentBound : Nat := 0x80000000

/-- The double of digits with a power of ten and a written exponent. -/
def withExponent (negative : Bool) (n : Nat) (e : Int) (below : Bool) (ds : List Nat) :
    Except Fault Number :=
  let k := ds.foldl (fun k d => 10 * k + d) 0
  if exponentBound ≤ k then
    if n = 0 || below then .ok (.ofReal negative 0) else .error .grammar
  else
    match scaled? n (if below then e - k else e + k) with
    | some x => .ok (.ofReal negative x)
    | none => .error .grammar

/-- What may follow the digits of a number: an exponent, or nothing more. -/
def finishReal (negative : Bool) (n : Nat) (e : Int) (src : Source) :
    Except Fault (Number × Source) := do
  match src with
  | some 'e' :: rest | some 'E' :: rest =>
    let (below, ds, src) ← exponentRun rest
    pure (← withExponent negative n e below ds, src)
  | _ =>
    match scaled? n e with
    | some x => pure (.ofReal negative x, src)
    | none => throw .grammar

/-- **A number**, after its sign. -/
def readNumber (negative : Bool) (src : Source) : Except Fault (Number × Source) := do
  match digitRun src with
  | ([], []) => throw .ended
  | ([], _) => throw .grammar
  | (0 :: _ :: _, _) => throw .grammar
  | (ds, src) =>
    let whole := Digits.absorb ⟨0, 0, 0⟩ ds
    match src with
    | some '.' :: rest =>
      let (fs, src) ← fractionRun rest
      let all := Digits.absorb ⟨whole.value, 0, 0⟩ fs
      finishReal negative all.value ((whole.left : Int) - all.taken) src
    | some 'e' :: _ | some 'E' :: _ => finishReal negative whole.value whole.left src
    | _ =>
      if whole.left = 0 then pure (.ofInteger negative whole.value, src)
      else finishReal negative whole.value whole.left src

/-- The rest of a number that nobody looks at, from its exponent on. -/
def skipExponent (src : Source) : Except Fault Source :=
  match src with
  | some 'e' :: rest | some 'E' :: rest =>
    match exponentRun rest with
    | .ok (_, _, src) => .ok src
    | .error _ => .error .grammar
  | _ => .ok src

/-- **A number that nobody looks at**, after its sign: here a number that breaks off is bad grammar. -/
def skipNumber (src : Source) : Except Fault Source :=
  match digitRun src with
  | ([], _) => .error .grammar
  | (0 :: _ :: _, _) => .error .grammar
  | (_, some '.' :: rest) =>
    match digitRun rest with
    | ([], _) => .error .grammar
    | (_, src) => skipExponent src
  | (_, src) => skipExponent src

end PlanBrowser.Json
