/-
The shortest decimal of a floating-point number: of all decimals that round
to the number, those with the fewest digits, and of these the nearest.

# The search

The reals that round to `m * 2 ^ q` form an interval around it, its ends
included iff `m` is even. For 1, 2, 3, … digits the value has two neighbours
on the grid of decimals with that many digits; the first grid with a
neighbour in the interval wins. Seventeen digits always suffice for 64 bits.
-/
import CameraDriver.Number.Binary

namespace CameraDriver.Number

/-- A decimal `digits * 10 ^ exponent`. -/
structure Decimal where
  digits : Nat
  exponent : Int
deriving DecidableEq, Repr

/-- Which of two equally near decimals is taken. -/
inductive Tie where
  /-- The greater one. -/
  | up
  /-- The one with an even last digit. -/
  | even
deriving DecidableEq, Repr

/-- The interval of reals that round to a number, scaled: `low / den`,
`value / den` and `high / den`, with the ends included or not. -/
structure Interval where
  low : Nat
  value : Nat
  high : Nat
  den : Nat
  closed : Bool

/-- The interval of the positive number `m * 2 ^ q` in a format. -/
def Format.interval (f : Format) (m : Nat) (q : Int) : Interval :=
  let below := if m = Nat.pow 2 (f.precision - 1) ∧ f.minExponent < q then 1 else 2
  let (low, _) := ratio (4 * m - below) (q - 2)
  let (value, den) := ratio (4 * m) (q - 2)
  let (high, _) := ratio (4 * m + 2) (q - 2)
  { low, value, high, den, closed := m % 2 = 0 }

/-- Whether `n * unit` lies in the interval, all three scaled alike. -/
def within (low high n : Nat) (closed : Bool) : Bool :=
  if closed then low ≤ n && n ≤ high else low < n && n < high

/-- The decimal of the grid `10 ^ k` that the interval holds and that is
nearest to the value. -/
def Interval.onGrid (i : Interval) (tie : Tie) (k : Int) : Option Decimal :=
  let scale := Nat.pow 10 (-k).toNat
  let unit := i.den * Nat.pow 10 k.toNat
  let low := i.low * scale
  let value := i.value * scale
  let high := i.high * scale
  let floor := value / unit
  let hasFloor := within low high (floor * unit) i.closed
  let hasNext := within low high ((floor + 1) * unit) i.closed
  if hasFloor && hasNext then
    let rest := 2 * (value % unit)
    let takeNext : Bool :=
      if rest = unit then tie = .up || floor % 2 = 1 else unit < rest
    some ⟨if takeNext then floor + 1 else floor, k⟩
  else if hasFloor then some ⟨floor, k⟩
  else if hasNext then some ⟨floor + 1, k⟩
  else none

/-- Tries the grids `10 ^ k`, `10 ^ (k - 1)`, … in turn. -/
def Interval.search (i : Interval) (tie : Tie) : (grids : Nat) → (k : Int) → Decimal
  | 0, k => (i.onGrid tie k).getD ⟨0, 0⟩
  | grids + 1, k =>
      match i.onGrid tie k with
      | some d => d
      | none => i.search tie grids (k - 1)

/-- A decimal without trailing zeros in its digits. -/
def Decimal.normal (d : Decimal) : Decimal :=
  if h : d.digits ≠ 0 ∧ d.digits % 10 = 0 then
    Decimal.normal ⟨d.digits / 10, d.exponent + 1⟩
  else d
termination_by d.digits
decreasing_by omega

/-- The greatest `e` with `10 ^ e ≤ value / den`, found downward from an
upper bound. -/
def floorLog10 (value den : Nat) : Int :=
  let guess : Int := floorLog2 value den * 30103 / 100000 + 1
  let reached (e : Int) : Bool :=
    if 0 ≤ e then den * Nat.pow 10 e.toNat ≤ value else den ≤ value * Nat.pow 10 (-e).toNat
  if reached guess then guess
  else if reached (guess - 1) then guess - 1
  else guess - 2

/-- The shortest decimal of the positive number `m * 2 ^ q`. -/
def Format.shortest (f : Format) (tie : Tie) (m : Nat) (q : Int) : Decimal :=
  let i := f.interval m q
  (i.search tie 20 (floorLog10 i.value i.den)).normal

end CameraDriver.Number
