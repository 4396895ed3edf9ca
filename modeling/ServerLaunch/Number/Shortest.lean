import ServerLaunch.Number.Binary64

/-!
# Shortest decimals

Among the decimals that read back as a given double precision value, the one with
the fewest digits, and of those the nearest to the value. The search goes through the
decimal grids from coarse to fine in exact natural arithmetic; on each grid only the
two neighbours of the value can read back first.

## Main definitions

* `Decimal`: a natural number of units of a power of ten.
* `Interval`: the numbers that read back as a value.
* `shortest`: the decimal that stands for a value.
-/
namespace ServerLaunch.Number

/-- The number `digits * 10 ^ scale`. -/
structure Decimal where
  digits : Nat
  scale : Int
deriving DecidableEq, Repr

/-- The numbers that read back as the value `center / den`: those from `low / den` to
`high / den`, the ends among them only if `closed`. -/
structure Interval where
  low : Nat
  center : Nat
  high : Nat
  den : Nat
  closed : Bool

namespace Interval

/-- The numbers that round to `significand * 2 ^ exponent`. The gap below a power of two
is half as wide as the gap above. -/
def around (significand : Nat) (exponent : Int) : Interval :=
  let unit := Nat.pow 2 (exponent - 2).toNat
  let below :=
    if significand * 2 = Binary64.significands && Binary64.leastExponent < exponent then 1 else 2
  { low := (4 * significand - below) * unit
    center := 4 * significand * unit
    high := (4 * significand + 2) * unit
    den := Nat.pow 2 (2 - exponent).toNat
    closed := significand % 2 == 0 }

/-- The position of the decimal point: the value lies below `10 ^ point` and not below a
tenth of that. -/
def point (i : Interval) : Int :=
  if i.den ≤ i.center then ((Nat.toDigits 10 (i.center / i.den)).length : Int)
  else
    let zeros := (Nat.toDigits 10 (i.den / i.center)).length
    if i.den ≤ i.center * Nat.pow 10 (zeros - 1) then 2 - (zeros : Int) else 1 - (zeros : Int)

/-- Whether `digits * up / (down * den)`, a point of a decimal grid, reads back. -/
def holds (i : Interval) (up down digits : Nat) : Bool :=
  let here := digits * down * i.den
  let low := i.low * up
  let high := i.high * up
  if i.closed then low ≤ here && here ≤ high else low < here && here < high

/-- The point that reads back on the grid of unit `10 ^ scale`, the nearer if both
neighbours of the value do. -/
def onGrid? (i : Interval) (scale : Int) : Option Nat :=
  let up := Nat.pow 10 (-scale).toNat
  let down := Nat.pow 10 scale.toNat
  let floor := i.center * up / (down * i.den)
  let gapBelow := i.center * up - floor * down * i.den
  let gapAbove := (floor + 1) * down * i.den - i.center * up
  match i.holds up down floor, i.holds up down (floor + 1) with
  | true, true =>
    some (if gapBelow < gapAbove || (gapBelow == gapAbove && floor % 2 == 0) then floor
      else floor + 1)
  | true, false => some floor
  | false, true => some (floor + 1)
  | false, false => none

/-- The first grid with a point that reads back, starting from `count` digits and trying
`tries` finer ones after it. -/
def search (i : Interval) : Nat → Nat → Decimal
  | 0, count => ⟨(i.onGrid? (i.point - count)).getD 0, i.point - count⟩
  | tries + 1, count =>
    match i.onGrid? (i.point - count) with
    | some digits => ⟨digits, i.point - count⟩
    | none => i.search tries (count + 1)

end Interval

/-- The shortest decimal that reads back as `significand * 2 ^ exponent`, a finite value
other than zero. Seventeen digits always suffice. -/
def shortest (significand : Nat) (exponent : Int) : Decimal :=
  (Interval.around significand exponent).search 16 1

end ServerLaunch.Number
