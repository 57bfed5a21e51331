import Statbook.Decimal.Whole
import Statbook.Decimal.Layout
import Statbook.Json.Value

/-!
# Values of statistics

A statistic is an integer, a float or null. Arithmetic on integers is exact as long as the
result fits into 64 bits and goes on in floats where it does not; null takes part in nothing.
-/

namespace Statbook

open Decimal

/-- The value of a statistic. -/
inductive StatValue where
  | null
  | int (value : Int64)
  | float (value : Float)
  deriving DecidableEq

namespace StatValue

instance : Inhabited StatValue := ⟨null⟩

/-- Whether there is no value. -/
def isNull : StatValue → Bool
  | null => true
  | _ => false

/-- The float nearest to an integer. -/
def floatOfInt (n : Int64) : Float :=
  Float.ofInt n.toInt

/-- The value as a float. -/
def toFloat? : StatValue → Option Float
  | null => none
  | int value => some (floatOfInt value)
  | float value => some value

/-- The integer nearest to a magnitude `mantissa * 2 ^ exponent`; a half is rounded up. -/
def roundMagnitude (mantissa : Nat) (exponent : Int) : Nat :=
  if 0 ≤ exponent then mantissa * Nat.pow 2 exponent.toNat
  else (2 * mantissa + Nat.pow 2 exponent.natAbs) / (2 * Nat.pow 2 exponent.natAbs)

/-- The nearest end of the 64-bit range for integers beyond it. -/
def saturate (n : Int) : Int64 :=
  if n < Int64.minValue.toInt then Int64.minValue
  else if Int64.maxValue.toInt < n then Int64.maxValue
  else Int64.ofInt n

/-- The integer nearest to a float; a half is rounded away from zero, floats beyond the range
go to its ends, and what is not a number goes to zero. -/
def roundFloat (x : Float) : Int64 :=
  match Parts.ofFloat x with
  | .notANumber => 0
  | .infinite negative => if negative then Int64.minValue else Int64.maxValue
  | .finite negative mantissa exponent =>
    let magnitude : Int := roundMagnitude mantissa exponent
    saturate (if negative then -magnitude else magnitude)

/-- The value as an integer. -/
def toInt? : StatValue → Option Int64
  | null => none
  | int value => some value
  | float value => some (roundFloat value)

/-- The text of a value. -/
def text : StatValue → String
  | null => "null"
  | int value => ofInt64 value
  | float value => plainFloat value

/-- A value as JSON. -/
def toJson : StatValue → Json
  | null => .null
  | int value => .integer value.toInt
  | float value => .float value

/-- Integers are combined exactly where the result fits, all else as floats. -/
def combine (exact : Int → Int → Int) (rounded : Float → Float → Float) :
    StatValue → StatValue → StatValue
  | int a, int b =>
    match int64? (exact a.toInt b.toInt) with
    | some value => int value
    | none => float (rounded (floatOfInt a) (floatOfInt b))
  | a, b =>
    match a.toFloat?, b.toFloat? with
    | some x, some y => float (rounded x y)
    | _, _ => null

/-- The sum of two values. -/
protected def add (a b : StatValue) : StatValue :=
  combine (· + ·) (· + ·) a b

/-- The difference of two values. -/
protected def sub (a b : StatValue) : StatValue :=
  combine (· - ·) (· - ·) a b

/-- The product of two values. -/
protected def mul (a b : StatValue) : StatValue :=
  combine (· * ·) (· * ·) a b

/-- The quotient of two values is a float; by zero there is none. -/
protected def div (a b : StatValue) : StatValue :=
  match a.toFloat?, b.toFloat? with
  | some x, some y => if y == 0.0 then null else float (x / y)
  | _, _ => null

instance : Add StatValue := ⟨StatValue.add⟩
instance : Sub StatValue := ⟨StatValue.sub⟩
instance : Mul StatValue := ⟨StatValue.mul⟩
instance : Div StatValue := ⟨StatValue.div⟩

end StatValue

end Statbook
