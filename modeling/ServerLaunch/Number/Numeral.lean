import ServerLaunch.Number.Binary64
import ServerLaunch.Text.Blank
import ServerLaunch.Text.Digit

/-!
# Reading numbers

The texts that count as a number: an optional sign, then digits with an optional
point and exponent, or one of the words for infinity and not a number in any case of
its letters. Digits may come from any script, and a single underscore may separate
two digits. Space around the number is ignored; nothing else may be left over.

The result is the double precision value nearest to the number written, however many
digits it has.

## Main definitions

* `Numeral`: a number as it is written, sign, digits and exponent.
* `Numeral.value`: the value nearest to it.
* `read?`: the value that a text stands for.
-/
namespace ServerLaunch.Number

open ServerLaunch.Text

/-- A number as it is written: `digits * 10 ^ scale`. -/
structure Numeral where
  digits : Nat
  scale : Int
deriving DecidableEq, Repr

namespace Numeral

/-- Powers of ten from here on are beyond every finite value. -/
def overflowPoint : Int := 310

/-- Powers of ten up to here are nearer to zero than to any other value. -/
def underflowPoint : Int := -330

/-- The value nearest to a number as it is written. -/
def value (negative : Bool) (n : Numeral) : Binary64 :=
  if n.digits = 0 then .zero negative
  else
    let point := ((Nat.toDigits 10 n.digits).length : Int) + n.scale
    if overflowPoint < point then .infinity negative
    else if point < underflowPoint then .zero negative
    else
      .ofRatio negative (n.digits * Nat.pow 10 n.scale.toNat) (Nat.pow 10 (-n.scale).toNat)

end Numeral

/-! ## The characters of a number -/

/-- Whether space around a number is ignored: the ASCII space, tab and line controls, and
the blank characters beyond ASCII. -/
def isPadding (c : Char) : Bool :=
  c == ' ' || (0x09 ≤ c.toNat && c.toNat ≤ 0x0D) || (0x7F ≤ c.toNat && isBlank c)

/-- The character with a digit of any script written as the ASCII digit. -/
def plainDigit (c : Char) : Char :=
  match digitValue? c with
  | some n => digitChar n
  | none => c

/-- Whether every underscore stands between two digits, `before` telling whether a digit
came last. -/
def separatorsFit : Bool → List Char → Bool
  | _, [] => true
  | before, '_' :: c :: rest => before && c.isDigit && separatorsFit true rest
  | _, ['_'] => false
  | _, c :: rest => separatorsFit c.isDigit rest

/-- The value of a run of digits that continues `digits`. -/
def digitsValue (digits : Nat) (run : List Char) : Nat :=
  run.foldl (fun n c => 10 * n + (c.toNat - 0x30)) digits

/-! ## The grammar -/

/-- The sign in front, and the rest. -/
def readSign : List Char → Bool × List Char
  | '-' :: rest => (true, rest)
  | '+' :: rest => (false, rest)
  | cs => (false, cs)

/-- The exponent that ends a number, zero if there is none; `none` if something else is
left over. -/
def readExponent? : List Char → Option Int
  | [] => some 0
  | e :: rest =>
    if e = 'e' || e = 'E' then
      let (negative, run) := readSign rest
      if run.isEmpty || !run.all Char.isDigit then none
      else
        let n : Int := digitsValue 0 run
        some (if negative then -n else n)
    else none

/-- Digits with an optional point, at least one digit in all, and an optional exponent. -/
def readNumeral? (cs : List Char) : Option Numeral :=
  let whole := cs.takeWhile Char.isDigit
  let afterWhole := cs.dropWhile Char.isDigit
  let (part, afterPart) : List Char × List Char := match afterWhole with
    | '.' :: rest => (rest.takeWhile Char.isDigit, rest.dropWhile Char.isDigit)
    | rest => ([], rest)
  if whole.isEmpty && part.isEmpty then none
  else
    (readExponent? afterPart).map fun exponent =>
      { digits := digitsValue 0 (whole ++ part)
        scale := exponent - part.length }

/-- The word for infinity or not a number. -/
def readWord? (negative : Bool) (cs : List Char) : Option Binary64 :=
  let word := String.ofList (cs.map Char.toLower)
  if word = "inf" || word = "infinity" then some (.infinity negative)
  else if word = "nan" then some .nan
  else none

/-- The value that a text stands for, or `none` if it is no number. -/
def read? (text : String) : Option Binary64 :=
  let cs := (dropBoth isPadding text.toList).map plainDigit
  if separatorsFit false cs then
    let (negative, unsigned) := readSign (cs.filter (· != '_'))
    match readWord? negative unsigned with
    | some x => some x
    | none => (readNumeral? unsigned).map (·.value negative)
  else none

end ServerLaunch.Number
