import Statbook.Decimal.Whole
import Statbook.Decimal.Shortest

/-!
# Texts of floating-point numbers

A layout says how the digits of a float are set out. Two are in use: the plain one of SQL
texts, filter values and reports, and the one of JSON numbers.
-/

namespace Statbook.Decimal

/-- How the shortest digits of a float become a text. -/
structure Layout where
  /-- Which of two equally near decimals is taken. -/
  tie : Tie
  /-- The least and the greatest power of ten of a first digit that is written without an
  exponent; no bounds mean that an exponent is never written. -/
  positional : Option (Int × Int)
  /-- What follows the digits of a whole number. -/
  wholeEnding : String

/-- Plain text never has an exponent, and a whole number has no fraction. -/
def Layout.plain : Layout := ⟨.awayFromZero, none, ""⟩

/-- A JSON number is written without an exponent from `10 ^ (-5)` to below `10 ^ 16`, and a
whole number ends in `.0`, which sets it apart from an integer. -/
def Layout.json : Layout := ⟨.toEven, some (-5, 15), ".0"⟩

/-- The digits with the decimal point after the first `point` of them, filled up with zeros
on either side where the point lies outside. -/
def Layout.setPoint (layout : Layout) (ds : List Char) (point : Int) : List Char :=
  if point ≤ 0 then
    '0' :: '.' :: (List.replicate (-point).toNat '0' ++ ds)
  else if ds.length ≤ point.toNat then
    ds ++ List.replicate (point.toNat - ds.length) '0' ++ layout.wholeEnding.toList
  else
    ds.take point.toNat ++ '.' :: ds.drop point.toNat

/-- The digits with a point after the first one, and the power of ten of that one. -/
def scientific (ds : List Char) (power : Int) : List Char :=
  let fraction := ds.drop 1
  let sign := if power < 0 then '-' else '+'
  ds.take 1 ++ (if fraction.isEmpty then [] else '.' :: fraction) ++
    'e' :: sign :: digits power.natAbs

/-- The text of the positive decimal `coefficient * 10 ^ exponent`. -/
def Layout.setOut (layout : Layout) (s : Scaled) : List Char :=
  let ds := digits s.coefficient
  let point : Int := ds.length + s.exponent
  match layout.positional with
  | none => layout.setPoint ds point
  | some (least, greatest) =>
    if least ≤ point - 1 ∧ point - 1 ≤ greatest then layout.setPoint ds point
    else scientific ds (point - 1)

/-- The text of a finite float. Zero is a whole number and keeps its sign. -/
def Layout.finite (layout : Layout) (negative : Bool) (mantissa : Nat) (exponent : Int) :
    List Char :=
  (if negative then ['-'] else []) ++
    (if mantissa = 0 then '0' :: layout.wholeEnding.toList
     else layout.setOut (shortest layout.tie mantissa exponent))

/-- The plain text of any float. -/
def plainFloat (x : Float) : String :=
  match Parts.ofFloat x with
  | .notANumber => "NaN"
  | .infinite negative => if negative then "-inf" else "inf"
  | .finite negative mantissa exponent =>
    String.ofList (Layout.plain.finite negative mantissa exponent)

/-- The JSON number of a finite float; the others have none. -/
def jsonFloat? (x : Float) : Option (List Char) :=
  match Parts.ofFloat x with
  | .finite negative mantissa exponent => some (Layout.json.finite negative mantissa exponent)
  | _ => none

/-- Whether a float is neither infinite nor "not a number". -/
def isFinite (x : Float) : Bool :=
  match Parts.ofFloat x with
  | .finite .. => true
  | _ => false

end Statbook.Decimal
