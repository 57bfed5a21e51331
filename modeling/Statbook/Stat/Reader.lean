import Statbook.Json.Number
import Statbook.Text.Pieces
import Statbook.Stat.Value

/-!
# Reading values of statistics

A value is read from a JSON text: null, an integer that fits into 64 bits, or any other number
as a float.
-/

namespace Statbook.StatValue

/-- The value of a JSON number. -/
def ofNumber : Json.Number → StatValue
  | .integer n =>
    match Decimal.int64? n with
    | some value => int value
    | none => float (Float.ofInt n)
  | .float value => float value

/-- The null or the number at the front of a text. -/
def readFront? (cs : List Char) : Option (StatValue × List Char) :=
  match Text.afterStart? "null".toList cs with
  | some rest => some (null, rest)
  | none => (Json.readNumber? cs).map fun (number, rest) => (ofNumber number, rest)

/-- The value that a JSON text holds, if nothing stands beside it. -/
def ofJsonText? (s : String) : Option StatValue :=
  match readFront? (s.toList.dropWhile Json.isSpace) with
  | some (value, rest) => if rest.all Json.isSpace then some value else none
  | none => none

end Statbook.StatValue
