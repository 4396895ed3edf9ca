import ServerLaunch.Number.Shortest

/-!
# Writing numbers

How the digits of a number are laid out: where the point stands, when an exponent is
written, and the texts of the values that have no digits. The choices are one record.

## Main definitions

* `Layout`: the choices of a number format.
* `Layout.write`: the text of a double precision value.
-/
namespace ServerLaunch.Number

/-- The choices of a number format. A number whose decimal point stands from
`leastPoint` to `greatestPoint` places after its first digit is written without an
exponent, with at least one place after the point. -/
structure Layout where
  leastPoint : Int
  greatestPoint : Int
  exponentWidth : Nat
  infinity : String
  nan : String
deriving DecidableEq, Repr

namespace Layout

/-- The digits without trailing zeros, and the position of the point before them. -/
def normalDigits (d : Decimal) : List Char × Int :=
  let ds := Nat.toDigits 10 d.digits
  ((ds.reverse.dropWhile (· == '0')).reverse, (ds.length : Int) + d.scale)

/-- Digits with the decimal point at `point`, filled up with zeros. -/
def positional (ds : List Char) (point : Int) : List Char :=
  if point ≤ 0 then '0' :: '.' :: List.replicate (-point).toNat '0' ++ ds
  else
    let whole := point.toNat
    if ds.length ≤ whole then ds ++ List.replicate (whole - ds.length) '0' ++ ['.', '0']
    else ds.take whole ++ '.' :: ds.drop whole

/-- Digits in scientific form, with a signed exponent of at least the layout's width. -/
def scientific (layout : Layout) (ds : List Char) (point : Int) : List Char :=
  let mantissa := match ds with
    | [] => ['0']
    | [d] => [d]
    | d :: rest => d :: '.' :: rest
  let exponent := point - 1
  let es := Nat.toDigits 10 exponent.natAbs
  mantissa ++ 'e' :: (if exponent < 0 then '-' else '+')
    :: List.replicate (layout.exponentWidth - es.length) '0' ++ es

/-- The text of a magnitude. -/
def magnitude (layout : Layout) (significand : Nat) (exponent : Int) : List Char :=
  if significand = 0 then ['0', '.', '0']
  else
    let (ds, point) := normalDigits (shortest significand exponent)
    if layout.leastPoint ≤ point && point ≤ layout.greatestPoint then positional ds point
    else layout.scientific ds point

/-- The sign of a negative value. -/
def sign (negative : Bool) : List Char := if negative then ['-'] else []

/-- The text of a value. Not a number has no sign. -/
def write (layout : Layout) : Binary64 → String
  | .nan => layout.nan
  | .infinity negative => String.ofList (sign negative ++ layout.infinity.toList)
  | .finite negative significand exponent =>
    String.ofList (sign negative ++ layout.magnitude significand exponent)

end Layout

end ServerLaunch.Number
