import Drawbridge.Double

/-!
# The fewest decimal digits that read back

A positive double `m * 2 ^ q` is what every real between two bounds rounds to; the bounds count
when `m` is even. On the grid of the multiples of `10 ^ k` only the two neighbours of the value can
be the nearest grid point, so the first grid, from coarse to fine, with a neighbour inside the
bounds gives the fewest digits, and the nearer of two neighbours inside gives the digits. One may
also ask for the first grid whose nearest point is inside, which just above a power of two can take
a digit more.
-/

namespace Drawbridge.Decimal

/-- `digits * 10 ^ exponent`. -/
structure Scaled where
  digits : Nat
  exponent : Int
  deriving DecidableEq, Repr

/-- What rounds to one double, in units of `2 ^ unit`: `low` to `high` around `mid`. -/
structure Interval where
  low : Nat
  mid : Nat
  high : Nat
  closed : Bool
  unit : Int

/-- The reals that round to the finite positive double `x`. Just above a power of two the lower
neighbour is at half the distance. -/
def Interval.of (x : Double) : Interval :=
  let m := x.significand
  { low := if x.fraction = 0 && 1 < x.exponentField then 4 * m - 1 else 4 * m - 2
    mid := 4 * m
    high := 4 * m + 2
    closed := m % 2 = 0
    unit := x.power - 2 }

/-- `a * 2 ^ unit / 10 ^ k` as a numerator and a denominator. -/
def onGrid (a : Nat) (unit k : Int) : Nat × Nat :=
  (a * Nat.pow 2 unit.toNat * Nat.pow 10 (-k).toNat,
    Nat.pow 2 (-unit).toNat * Nat.pow 10 k.toNat)

/-- Whether the grid point `n * 10 ^ k` lies within the bounds. -/
def Interval.holds (v : Interval) (k : Int) (n : Nat) : Bool :=
  let (lowNum, den) := onGrid v.low v.unit k
  let (highNum, _) := onGrid v.high v.unit k
  if v.closed then lowNum ≤ n * den && n * den ≤ highNum
  else lowNum < n * den && n * den < highNum

/-- The nearest point of the grid `10 ^ k`, of two equally near the even one. -/
def Interval.nearest (v : Interval) (k : Int) : Nat :=
  let (num, den) := onGrid v.mid v.unit k
  let below := num / den
  let twiceRest := 2 * (num % den)
  if twiceRest < den || (twiceRest = den && below % 2 = 0) then below else below + 1

/-- The nearest point of the grid `10 ^ k` if it lies within the bounds. -/
def Interval.nearest? (v : Interval) (k : Int) : Option Nat :=
  let n := v.nearest k
  if v.holds k n then some n else none

/-- The nearer of the neighbours on the grid `10 ^ k` that lie within the bounds, a tie to the even
one. -/
def Interval.neighbour? (v : Interval) (k : Int) : Option Nat :=
  let (num, den) := onGrid v.mid v.unit k
  let below := num / den
  match v.holds k below, v.holds k (below + 1) with
  | false, false => none
  | true, false => some below
  | false, true => some (below + 1)
  | true, true => some (v.nearest k)

/-- The largest `k` with `10 ^ k` at most the value, up to one too small. -/
def Interval.magnitude (v : Interval) : Int :=
  let guess := ((v.mid.log2 : Int) + v.unit) * 30103 / 100000
  let (num, den) := onGrid v.mid v.unit (guess + 1)
  if den ≤ num then guess + 1 else guess

/-- Drops zeros at the end of the digits. -/
def trim : Nat → Scaled → Scaled
  | 0, s => s
  | fuel + 1, s =>
    if s.digits ≠ 0 && s.digits % 10 = 0 then trim fuel ⟨s.digits / 10, s.exponent + 1⟩ else s

/-- The first point that is picked on the grids from `10 ^ k` down, `fuel` of them. -/
def Interval.search (v : Interval) (pick : Int → Option Nat) : Nat → Int → Scaled
  | 0, k => ⟨v.mid, k⟩
  | fuel + 1, k =>
    match pick k with
    | some n => if n = 0 then v.search pick fuel (k - 1) else trim 20 ⟨n, k⟩
    | none => v.search pick fuel (k - 1)

/-- The fewest digits that read back as the finite positive double `x`. -/
def shortest (x : Double) : Scaled :=
  let v := Interval.of x
  v.search v.neighbour? 20 v.magnitude

/-- The fewest digits to which the finite positive double `x` can be rounded so that they read back
as `x`. -/
def shortestRounded (x : Double) : Scaled :=
  let v := Interval.of x
  v.search v.nearest? 20 v.magnitude

end Drawbridge.Decimal
