/-!
# The fewest digits that read back

A finite binary floating-point number stands for an interval of reals: those that round to it. Of
all decimals in the interval `shortest` picks one with the fewest digits, and among those the one
nearest to the number itself.

A number is given as `m * 2 ^ q`. All comparisons are exact: everything is measured in quarters of
`2 ^ q`, so that the ends of the interval are whole numbers too. Both ends belong to the interval
exactly when `m` is even, because a tie rounds to the even neighbour. It is enough to test, for each
number of digits, the two neighbours of the number on that decimal grid: if any point of the grid is
in the interval, one of them is.
-/

namespace TypedLayouts.Decimal

/-- A positive number with the interval of reals that round to it: `value`, `low` and `high` are
numerators over the common denominator `unit`. -/
structure Interval where
  /-- The number. -/
  value : Nat
  /-- The lower end. -/
  low : Nat
  /-- The upper end. -/
  high : Nat
  /-- The common denominator. -/
  unit : Nat
  /-- The ends round to the number too. -/
  closed : Bool
  deriving Repr

/-- The interval of `m * 2 ^ q`. The next number below is only half as far away when `m` is the
least mantissa of its exponent; `narrow` says so. -/
def Interval.ofBinary (m : Nat) (q : Int) (narrow : Bool) : Interval :=
  let up := Nat.pow 2 q.toNat
  { value := 4 * m * up
    low := (4 * m - if narrow then 1 else 2) * up
    high := (4 * m + 2) * up
    unit := 4 * Nat.pow 2 (-q).toNat
    closed := m % 2 == 0 }

/-- `c * 10 ^ k` is in the interval. -/
def Interval.contains (i : Interval) (c : Nat) (k : Int) : Bool :=
  let x := c * Nat.pow 10 k.toNat * i.unit
  let down := Nat.pow 10 (-k).toNat
  if i.closed then i.low * down ≤ x && x ≤ i.high * down
  else i.low * down < x && x < i.high * down

/-- The exponent of the leading decimal digit of `value / unit`. -/
def leadingExponent (value unit : Nat) : Int :=
  if unit ≤ value then ((Nat.toDigits 10 (value / unit)).length : Int) - 1
  else -((Nat.toDigits 10 (unit / value)).length : Int)

/-- The point of the grid of step `10 ^ k` in the interval that is nearest to the number. -/
def Interval.onGrid (i : Interval) (k : Int) : Option Nat :=
  let up := i.value * Nat.pow 10 (-k).toNat
  let step := i.unit * Nat.pow 10 k.toNat
  let below := up / step
  let rest := 2 * (up % step)
  let belowIn := i.contains below k
  let aboveIn := i.contains (below + 1) k
  if belowIn && aboveIn then
    if rest < step || (rest == step && below % 2 == 0) then some below else some (below + 1)
  else if belowIn then some below
  else if aboveIn then some (below + 1)
  else none

/-- The first grid of the list that has a point in the interval, with that point. -/
def Interval.firstOnGrids (i : Interval) : List Int → Option (Nat × Int)
  | [] => none
  | k :: ks =>
    match i.onGrid k with
    | some c => some (c, k)
    | none => i.firstOnGrids ks

/-- Move the trailing zeros of a decimal `c * 10 ^ k` into its exponent. -/
def stripZeros (c : Nat) (k : Int) : Nat × Int :=
  if h : 0 < c ∧ c % 10 = 0 then stripZeros (c / 10) (k + 1) else (c, k)
termination_by c
decreasing_by omega

/-- The shortest decimal `c * 10 ^ k` that rounds to the number of an interval. A binary number of
53 bits is determined by 17 digits. -/
def shortest (i : Interval) : Nat × Int :=
  let top := leadingExponent i.value i.unit
  match i.firstOnGrids ((List.range 17).map fun n : Nat => top - (n : Int)) with
  | some (c, k) => stripZeros c k
  | none => (i.value / i.unit, 0)

/-- The interval of the magnitude of a finite number other than zero. -/
def Interval.ofFloat (x : Float) : Interval :=
  let fraction := (x.toBits &&& 0xFFFFFFFFFFFFF).toNat
  let biased := ((x.toBits >>> 52) &&& 0x7FF).toNat
  if biased = 0 then .ofBinary fraction (-1074) false
  else
    let narrow := fraction == 0 && 1 < biased
    .ofBinary (0x10000000000000 + fraction) (Int.ofNat biased - 1075) narrow

end TypedLayouts.Decimal
