/-!
# Double precision numbers

The values of the 64-bit binary floating point format, held exactly: a finite value
is a significand times a power of two. Only what a time-out needs is here, which is
rounding a fraction to the nearest value and comparing with zero; there is no
arithmetic.

## Main definitions

* `Binary64`: not a number, the infinities, and the finite values.
* `Binary64.ofRatio`: the value nearest to a fraction.
* `Binary64.atMostZero`: the comparison with zero, which is false of not a number.
-/
namespace ServerLaunch.Number

/-- A double precision value. A finite one is `significand * 2 ^ exponent`, with a
significand of 53 bits unless the exponent is the least one. -/
inductive Binary64 where
  | nan
  | infinity (negative : Bool)
  | finite (negative : Bool) (significand : Nat) (exponent : Int)
deriving DecidableEq, Repr

namespace Binary64

/-- The exponent of the smallest values. -/
def leastExponent : Int := -1074

/-- The exponent of the greatest finite values. -/
def greatestExponent : Int := 971

/-- The number of significands, a power of two. -/
def significands : Nat := Nat.pow 2 53

/-- Zero with a sign. -/
def zero (negative : Bool) : Binary64 := finite negative 0 leastExponent

/-- The quotient rounded to the nearest natural number, a tie to the even one. -/
def divNearest (num den : Nat) : Nat :=
  let q := num / den
  let twice := 2 * (num % den)
  if den < twice || (twice == den && q % 2 == 1) then q + 1 else q

/-- The fraction `num / den` in units of `2 ^ exponent`, as a fraction. -/
def inUnits (num den : Nat) (exponent : Int) : Nat × Nat :=
  if 0 ≤ exponent then (num, den * Nat.pow 2 exponent.toNat)
  else (num * Nat.pow 2 (-exponent).toNat, den)

/-- The exponent at which `num / den` has a significand of 53 bits, or the least one. -/
def exponentOf (num den : Nat) : Int :=
  let guess : Int := (num.log2 : Int) - (den.log2 : Int) - 53
  let (n, d) := inUnits num den guess
  max leastExponent (if n < d * significands then guess else guess + 1)

/-- A significand that rounding carried to 54 bits is halved; a value beyond the greatest
finite one is infinite. -/
def pack (negative : Bool) (significand : Nat) (exponent : Int) : Binary64 :=
  let (m, e) :=
    if significand < significands then (significand, exponent) else (significand / 2, exponent + 1)
  if greatestExponent < e then infinity negative else finite negative m e

/-- The value nearest to `num / den`, a tie to the even significand; `den` is not zero. -/
def ofRatio (negative : Bool) (num den : Nat) : Binary64 :=
  if num = 0 then zero negative
  else
    let e := exponentOf num den
    let (n, d) := inUnits num den e
    pack negative (divNearest n d) e

/-- The value nearest to a natural number. -/
def ofNat (n : Nat) : Binary64 := ofRatio false n 1

/-! ## Comparison with zero -/

/-- Whether the value is at most zero. -/
def atMostZero : Binary64 → Bool
  | nan => false
  | infinity negative => negative
  | finite negative significand _ => negative || significand == 0

end Binary64

end ServerLaunch.Number
