/-!
# The shortest decimal of a double

A finite double is `m · 2 ^ q` with a natural `m`.  The reals that round to it fill an interval around
it: half a unit on either side, a quarter below where the spacing changes, the ends included exactly when
`m` is even.  Its **shortest decimal** is the decimal with the fewest significant digits in that interval,
and of two such the one nearer to the double.

A decimal with `k` digits is a point of the grid with spacing `10 ^ e`, where `e` depends on `k` and on the
size of the double.  If any point of a grid lies in the interval then one of the two neighbours of the
double on that grid does, so the search looks at the two neighbours for `k = 1, 2, …, 17` and stops at the
first hit.  All arithmetic is exact, on naturals.

* `Binary` — sign, mantissa and exponent of a double, read off its bits;
* `Interval` — the interval, scaled to naturals;
* `shortest` — the digits and the power of ten.
-/

namespace PlanBrowser.Number

/-- A finite double: the value is `mantissa · 2 ^ exponent`, negative if `negative` is set. -/
structure Binary where
  negative : Bool
  mantissa : Nat
  exponent : Int
  /-- The double below is only half as far away as the one above. -/
  unevenBelow : Bool
  deriving Repr, DecidableEq

/-- The bit of the mantissa that is not written. -/
def hiddenBit : Nat := 0x10000000000000

/-- The parts of a double; `none` for the infinities and for what is not a number. -/
def Binary.ofBits? (bits : UInt64) : Option Binary :=
  let n := bits.toNat
  let negative := n / 0x8000000000000000 == 1
  let field : Nat := n / hiddenBit % 2048
  let fraction : Nat := n % hiddenBit
  if field == 2047 then none
  else if field == 0 then some ⟨negative, fraction, -1074, false⟩
  else some ⟨negative, hiddenBit + fraction, (field : Int) - 1075, fraction == 0 && field != 1⟩

/-- The least power of ten that exceeds a number: the number of its decimal digits. -/
def digitCount (n : Nat) : Nat :=
  (Nat.toDigits 10 n).length

/-- The reals that round to a double, all multiplied by `4 · scale`: `low ≤ value ≤ high`. -/
structure Interval where
  low : Nat
  value : Nat
  high : Nat
  scale : Nat
  closed : Bool
  deriving Repr

/-- The interval of a positive double. -/
def Binary.interval (b : Binary) : Interval :=
  let up := Nat.pow 2 b.exponent.toNat
  let down := Nat.pow 2 (-b.exponent).toNat
  let value := 4 * b.mantissa * up
  { low := value - (if b.unevenBelow then up else 2 * up)
    value := value
    high := value + 2 * up
    scale := 4 * down
    closed := b.mantissa % 2 == 0 }

/-- The point `n` of the grid with spacing `10 ^ e`, multiplied by the interval's scale and by the power of
ten that makes the spacing a natural. -/
def Interval.holds (i : Interval) (n : Nat) (e : Int) : Bool :=
  let point := n * Nat.pow 10 e.toNat * i.scale
  let unit := Nat.pow 10 (-e).toNat
  if i.closed then i.low * unit ≤ point && point ≤ i.high * unit
  else i.low * unit < point && point < i.high * unit

/-- The power of ten just above the value: `10 ^ (k - 1) ≤ value < 10 ^ k`. -/
def Interval.magnitude (i : Interval) : Int :=
  let whole := i.value / i.scale
  if whole ≠ 0 then digitCount whole
  else
    -- the value is below one: look for the first power of ten that lifts it to one
    let lift := (List.range 400).find? fun k => i.scale ≤ i.value * Nat.pow 10 k
    1 - ((lift.getD 400 : Nat) : Int)

/-- The neighbour of the value on the grid with `k` digits that lies in the interval; of two the nearer. -/
def Interval.hit? (i : Interval) (k : Nat) : Option (Nat × Int) :=
  let e := i.magnitude - k
  let num := i.value * Nat.pow 10 (-e).toNat
  let den := i.scale * Nat.pow 10 e.toNat
  let below := num / den
  let lowFits := below ≠ 0 && i.holds below e
  let highFits := i.holds (below + 1) e
  if lowFits && highFits then
    let rest := 2 * (num % den)
    some (if rest < den || rest == den && below % 2 == 0 then below else below + 1, e)
  else if lowFits then some (below, e)
  else if highFits then some (below + 1, e)
  else none

/-- The digits without zeros at the end, and the power of ten adjusted to that. -/
def dropZeros : Nat → Nat → Int → Nat × Int
  | 0, n, e => (n, e)
  | fuel + 1, n, e => if n % 10 == 0 && n ≠ 0 then dropZeros fuel (n / 10) (e + 1) else (n, e)

/-- **The shortest decimal** `digits · 10 ^ exponent` of a double; zero is `0 · 10 ^ 0`. -/
def Binary.shortest (b : Binary) : Nat × Int :=
  if b.mantissa == 0 then (0, 0)
  else
    match (List.range 17).findSome? fun k => b.interval.hit? (k + 1) with
    | some (n, e) => dropZeros 20 n e
    | none => (0, 0)

end PlanBrowser.Number
