import Statbook.Decimal.Reader
import Statbook.Calendar.Reader
import Statbook.Filter.Value

/-!
# Typed values from text

What a caller types is given a type: nothing, a number, a truth value, a date or a timestamp.
A number has to print back to what was typed, so that codes with leading zeros stay text. What
is none of these stays the text it was, blanks included.
-/

namespace Statbook.FilterValue

/-- The word `null`, in any case. -/
def inferNull? (s : String) : Option FilterValue :=
  if Text.sameIgnoringAsciiCase s "null" then some null else none

/-- An integer in its usual form. -/
def inferInt? (s : String) : Option FilterValue :=
  ((Decimal.readInt64? s.toList).filter fun n => Decimal.ofInt64 n == s).map int

/-- A finite float in its usual form. -/
def inferFloat? (s : String) : Option FilterValue :=
  ((Decimal.readFloat? s.toList).filter fun x =>
    Decimal.isFinite x && Decimal.plainFloat x == s).map float

/-- One of the two truth values. -/
def inferBool? (s : String) : Option FilterValue :=
  if s = "true" then some (bool true)
  else if s = "false" then some (bool false)
  else none

/-- The typed value of a text without blanks at its ends, if it has one. -/
def inferTyped? (s : String) : Option FilterValue :=
  inferNull? s <|> inferInt? s <|> inferFloat? s <|> inferBool? s <|>
    (Date.read? s.toList).map date <|> (Timestamp.read? s.toList).map timestamp

/-- The value that a text stands for. -/
def infer (s : String) : FilterValue :=
  (inferTyped? (Text.trim s)).getD (text s)

end Statbook.FilterValue
