import Statbook.Decimal.Whole
import Statbook.Decimal.Layout
import Statbook.Json.Value
import Statbook.Sql.Quoted

/-!
# SQL values

The scalars that go into a query and come back from it.
-/

namespace Statbook

/-- A scalar of a query. -/
inductive SqlValue where
  | null
  | integer (value : Int64)
  | real (value : Float)
  | text (value : String)
  deriving DecidableEq

namespace SqlValue

/-- The value as it stands in a query. -/
def literal : SqlValue → String
  | null => "NULL"
  | integer value => Decimal.ofInt64 value
  | real value => Decimal.plainFloat value
  | text value => Sql.quoteLiteral value

/-- The value as a cell of a report. -/
def cell : SqlValue → String
  | null => "NULL"
  | integer value => Decimal.ofInt64 value
  | real value => Decimal.plainFloat value
  | text value => value

/-- The value as JSON. -/
def toJson : SqlValue → Json
  | null => .null
  | integer value => .integer value.toInt
  | real value => .float value
  | text value => .text value

end SqlValue

end Statbook
