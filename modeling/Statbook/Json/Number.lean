import Statbook.Decimal.Layout
import Statbook.Decimal.Reader

/-!
# Reading JSON numbers

The digits of a number are gathered in a significand of 64 bits. Digits that do not fit any
more only count for the size of the number. A number with a fraction, an exponent or too many
digits is a float: its significand, rounded, is multiplied or divided by a power of ten in
floating point. A number beyond every float is refused.
-/

namespace Statbook.Json

open Decimal

/-- What a JSON number is read as. -/
inductive Number where
  | integer (value : Int)
  | float (value : Float)
  deriving DecidableEq

/-- The greatest significand. -/
def maxSignificand : Nat := UInt64.size - 1

/-- The significand with as many of the digits added as fit, and the number of the others. -/
def gather (significand : Nat) : List Char → Nat × Nat
  | [] => (significand, 0)
  | c :: cs =>
    let next := 10 * significand + digitValue c
    if maxSignificand < next then (significand, cs.length + 1) else gather next cs

/-- The greatest power of ten that is a float. -/
def maxPower : Nat := 308

/-- A power of ten that is at most the greatest one. -/
def powerOfTen (power : Nat) : Float :=
  Float.ofScientific 1 false (min power maxPower)

/-- A float divided by a power of ten, in steps of the greatest one. Two steps suffice to bring
every significand to zero. -/
def divideByPower (x : Float) (power : Nat) : Float :=
  if power ≤ maxPower then x / powerOfTen power
  else
    let x := x / powerOfTen maxPower
    if power ≤ 2 * maxPower then x / powerOfTen (power - maxPower)
    else x / powerOfTen maxPower

/-- A significand times a power of ten, unless that is beyond every float. -/
def scaled? (significand : Nat) (power : Int) : Option Float :=
  let x := Float.ofNat significand
  if significand = 0 then some x
  else if power < 0 then some (divideByPower x power.natAbs)
  else if maxPower < power.toNat then none
  else
    let y := x * powerOfTen power.toNat
    if isFinite y then some y else none

/-- The whole part of a number: a zero, or digits that start with no zero. -/
def readWhole? (cs : List Char) : Option (List Char × List Char) :=
  match cs with
  | '0' :: rest => some (['0'], rest)
  | _ => if (spanDigits cs).1.isEmpty then none else some (spanDigits cs)

/-- The digits after a point, if there is one. -/
def readFraction? : List Char → Option (Option (List Char) × List Char)
  | '.' :: cs =>
    let (ds, rest) := spanDigits cs
    if ds.isEmpty then none else some (some ds, rest)
  | cs => some (none, cs)

/-- The power of ten after its mark, if there is one. -/
def readExponent? : List Char → Option (Option Int × List Char)
  | c :: cs =>
    if c = 'e' ∨ c = 'E' then
      let (sign, cs) : Int × List Char := match cs with
        | '-' :: cs => (-1, cs)
        | '+' :: cs => (1, cs)
        | _ => (1, cs)
      let (ds, rest) := spanDigits cs
      if ds.isEmpty then none else some (some (sign * foldDigits 0 ds), rest)
    else some (none, c :: cs)
  | [] => some (none, [])

/-- The number at the front of a text without its sign: an integer where nothing makes it a
float. -/
def readUnsigned? (cs : List Char) : Option ((Nat × Option Float) × List Char) := do
  let (whole, cs) ← readWhole? cs
  let (fraction, cs) ← readFraction? cs
  let (exponent, cs) ← readExponent? cs
  let (significand, left) := gather 0 whole
  if fraction.isNone && exponent.isNone && left = 0 then
    pure ((significand, none), cs)
  else
    let ds := fraction.getD []
    let (significand, unused) := gather significand ds
    let power : Int := left - (ds.length - unused : Nat) + exponent.getD 0
    let value ← scaled? significand power
    pure ((significand, some value), cs)

/-- The number at the front of a text. A negative zero is a float, since no integer is. -/
def readNumber? (cs : List Char) : Option (Number × List Char) :=
  match cs with
  | '-' :: cs => (readUnsigned? cs).map fun
    | ((_, some value), rest) => (.float (-value), rest)
    | ((significand, none), rest) =>
      if significand = 0 ∨ Int64.minValue.toInt.natAbs < significand then
        (.float (-Float.ofNat significand), rest)
      else (.integer (-(significand : Int)), rest)
  | _ => (readUnsigned? cs).map fun
    | ((_, some value), rest) => (.float value, rest)
    | ((significand, none), rest) => (.integer significand, rest)

/-- A character that may stand between the parts of a JSON text. -/
def isSpace (c : Char) : Bool :=
  c = ' ' || c = '\t' || c = '\n' || c = '\r'

end Statbook.Json
