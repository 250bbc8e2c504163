/-
The fewest decimal digits that read back.

Around `m · 2 ^ q` lies the interval of reals that round to it; its ends belong to
it exactly when `m` is even.  For one digit, two digits and so on, only the two
neighbours of the value on that decimal grid can be the nearest point inside the
interval, so the first grid with a hit gives the shortest digits, and of two hits
the nearer one wins.  Seventeen digits always suffice.
-/
import TypeGraph.Decimal.Binary64

namespace TypeGraph.Decimal

/-- Decimal digits without a point: `digits · 10 ^ exponent`. -/
structure Scientific where
  digits : Nat
  exponent : Int
  deriving DecidableEq, Inhabited

/-- The reals that round to a number, over one denominator. -/
structure Interval where
  /-- The lower end is `low / den`. -/
  low : Nat
  /-- The number itself is `value / den`. -/
  value : Nat
  /-- The upper end is `high / den`. -/
  high : Nat
  /-- The common denominator. -/
  den : Nat
  /-- Whether the ends round to the number too. -/
  closed : Bool

/-- The interval of reals that round to `m · 2 ^ q`.  Just above a power of two the numbers
below lie twice as dense, so the lower gap is half as wide. -/
def Interval.around (m : Nat) (q : Int) : Interval :=
  let grid := scaled 1 2 (q - 2)
  let gap := if m = leastNormal ∧ leastExponent < q then 1 else 2
  { low := (4 * m - gap) * grid.1
    value := 4 * m * grid.1
    high := (4 * m + 2) * grid.1
    den := grid.2
    closed := m % 2 = 0 }

/-- Whether `n` steps, each the given fraction, lie in the interval. -/
def Interval.contains (i : Interval) (n : Nat) (step : Nat × Nat) : Bool :=
  let x := n * step.1 * i.den
  let low := i.low * step.2
  let high := i.high * step.2
  if i.closed then low ≤ x && x ≤ high else low < x && x < high

/-- The least power of ten above the value, by its exponent: the search goes upwards from `k` and
takes at most the given number of steps. -/
def decimalPoint (i : Interval) : Nat → Int → Int
  | 0, k => k
  | fuel + 1, k =>
    let power := scaled 1 10 k
    if i.value * power.2 < power.1 * i.den then k else decimalPoint i fuel (k + 1)

/-- The best point of the grid of step `10 ^ exponent`, if a neighbour of the value is inside. -/
def onGrid? (i : Interval) (exponent : Int) : Option Scientific :=
  let step := scaled 1 10 exponent
  let num := i.value * step.2
  let den := i.den * step.1
  let below := num / den
  let above := below + 1
  match i.contains below step, i.contains above step with
  | true, true => some ⟨roundDiv num den, exponent⟩
  | true, false => some ⟨below, exponent⟩
  | false, true => some ⟨above, exponent⟩
  | false, false => none

/-- Drops trailing zero digits, at most `fuel` of them. -/
def Scientific.trim : Nat → Scientific → Scientific
  | 0, s => s
  | fuel + 1, s =>
    if s.digits ≠ 0 ∧ s.digits % 10 = 0 then Scientific.trim fuel ⟨s.digits / 10, s.exponent + 1⟩
    else s

/-- The shortest decimal that reads back as `m · 2 ^ q`. -/
def shortest (m : Nat) (q : Int) : Scientific :=
  if m = 0 then ⟨0, 0⟩
  else
    let i := Interval.around m q
    let point := decimalPoint i 640 (-324)
    let found := (List.range 17).findSome? fun n => onGrid? i (point - (n + 1 : Nat))
    (found.getD ⟨m, 0⟩).trim 20

end TypeGraph.Decimal
