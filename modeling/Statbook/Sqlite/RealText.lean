import Statbook.Decimal.Reader
import Statbook.Decimal.Layout

/-!
# Texts of floats in SQLite

A float that has to become a text is first taken to a decimal of eighteen digits, or nineteen.
Where the fifteenth digit and the next are nines, or the digits from the fourteenth on are
zeros, a decimal of fourteen digits stands for the float if it is read back to the same float.
Otherwise there are seventeen digits; so a float may be written longer than it has to be, but
it is never lost.
-/

namespace Statbook.Sqlite

open Decimal

/-- The number of digits in the text of a float. -/
def realDigits : Nat := 17

/-- The number of digits in the text of a float that can be written short. -/
def shortDigits : Nat := 14

/-- The power of ten that a power of two reaches. The fraction is just below the logarithm of
two, and near enough to it for all exponents of floats. -/
def tensOf (power : Int) : Int :=
  power * 78913 / 262144

/-- The decimal of one digit more than are written, or two, that is nearest to the positive
`mantissa * 2 ^ exponent`; a half is rounded up. -/
def longDecimal (mantissa : Nat) (exponent : Int) : Scaled :=
  let grid := tensOf (exponent + mantissa.log2) - realDigits
  let num := mantissa * Nat.pow 2 exponent.toNat * Nat.pow 10 (-grid).toNat
  let den := Nat.pow 2 (-exponent).toNat * Nat.pow 10 grid.toNat
  ⟨(2 * num + den) / (2 * den), grid⟩

/-- The decimal with so many digits; a half is rounded up. -/
def roundTo (digitCount : Nat) (s : Scaled) : Scaled :=
  let surplus := (digits s.coefficient).length - digitCount
  let unit := Nat.pow 10 surplus
  ⟨(2 * s.coefficient + unit) / (2 * unit), s.exponent + surplus⟩

/-- A decimal of few digits next to a long one, if that suggests one: from below where nines
follow, from above where zeros follow or the long one is a whole number. -/
def shortDecimal? (s : Scaled) : Option Scaled :=
  let ds := digits s.coefficient
  let front := foldDigits 0 (ds.take shortDigits)
  let exponent := s.exponent + (ds.length - shortDigits : Nat)
  if (ds.drop shortDigits).take 2 = ['9', '9'] then some ⟨front + 1, exponent⟩
  else if 0 ≤ s.exponent ∨ (ds.drop (shortDigits - 1)).take 3 = ['0', '0', '0'] then
    some ⟨front, exponent⟩
  else none

/-- The decimal that is written for the positive float `mantissa * 2 ^ exponent`, which is
`x`. -/
def writtenDecimal (x : Float) (mantissa : Nat) (exponent : Int) : Scaled :=
  let long := longDecimal mantissa exponent
  let readsBack (s : Scaled) : Bool := scale s.coefficient s.exponent == x
  ((shortDecimal? long).filter readsBack).getD (roundTo realDigits long)

/-- The digits without the zeros at their end. -/
def dropTrailingZeros (ds : List Char) : List Char :=
  (ds.reverse.dropWhile (· = '0')).reverse

/-- The text of a positive decimal: its digits less the zeros at their end, and one digit at
least after the point. Below `10 ^ (-4)` and from `10 ^ 17` on there is an exponent. -/
def decimalText (s : Scaled) : List Char :=
  let all := digits s.coefficient
  let power : Int := all.length + s.exponent - 1
  let ds := dropTrailingZeros all
  let pad (fraction : List Char) := if fraction.isEmpty then ['0'] else fraction
  if power < -4 ∨ (realDigits : Int) ≤ power then
    ds.take 1 ++ '.' :: (pad (ds.drop 1) ++ 'e' :: (if power < 0 then '-' else '+') ::
      paddedDigits 2 power.natAbs)
  else if power < 0 then '0' :: '.' :: (List.replicate (-power - 1).toNat '0' ++ ds)
  else
    let before := power.toNat + 1
    ds.take before ++ List.replicate (before - ds.length) '0' ++ '.' :: pad (ds.drop before)

/-- The text of a float. -/
def realText (x : Float) : String :=
  match Parts.ofFloat x with
  | .notANumber => ""
  | .infinite negative => if negative then "-Inf" else "Inf"
  | .finite negative mantissa exponent =>
    if mantissa = 0 then "0.0"
    else
      let written := writtenDecimal x.abs mantissa exponent
      String.ofList ((if negative then ['-'] else []) ++ decimalText written)

end Statbook.Sqlite
