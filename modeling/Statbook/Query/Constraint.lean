import Statbook.Calendar.Layout
import Statbook.Sql.Writer

/-!
# Constraints

A constraint is one condition on the rows of a table. A query joins its constraints by `AND`.
-/

namespace Statbook

open Sql

/-- One condition on the rows of a table. -/
inductive Constraint where
  /-- A condition in SQL, taken as it is. -/
  | sql (fragment : String)
  /-- The column equals the value; it is null if the value is. -/
  | equals (column : String) (value : SqlValue)
  /-- The column equals one of the values; without values no row does. -/
  | oneOf (column : String) (values : List SqlValue)
  /-- The column lies between two moments, both included. -/
  | between (column : String) (first last : Timestamp)
  deriving DecidableEq

namespace Constraint

/-- The places of values with commas between them. -/
def valuePieces (values : List SqlValue) : List Piece :=
  joinPieces ", " (values.map fun value => [.value value])

/-- The condition on the rows of `table`, in pieces. -/
def pieces (table : String) : Constraint → List Piece
  | sql fragment => [.text ("(" ++ fragment ++ ")")]
  | equals column .null => [.text (qualifyColumn table column ++ " IS NULL")]
  | equals column value => [.text (qualifyColumn table column ++ " = "), .value value]
  | oneOf _ [] => [.text "1=0"]
  | oneOf column values =>
    .text (qualifyColumn table column ++ " IN (") :: (valuePieces values ++ [.text ")"])
  | between column first last =>
    [.text (qualifyColumn table column ++ " BETWEEN "), .value (.text first.sqlText),
      .text " AND ", .value (.text last.sqlText)]

/-- The condition on the rows of `table`, its values given to a writer. -/
def write (table : String) : Constraint → Writing String
  | sql fragment => pure ("(" ++ fragment ++ ")")
  | equals column .null => pure (qualifyColumn table column ++ " IS NULL")
  | equals column value => do
    let value ← Writer.value value
    pure (qualifyColumn table column ++ " = " ++ value)
  | oneOf _ [] => pure "1=0"
  | oneOf column values => do
    let values ← values.mapM Writer.value
    pure (qualifyColumn table column ++ " IN (" ++ Text.joinWith ", " values ++ ")")
  | between column first last => do
    let first ← Writer.value (.text first.sqlText)
    let last ← Writer.value (.text last.sqlText)
    pure (qualifyColumn table column ++ " BETWEEN " ++ first ++ " AND " ++ last)

end Constraint

end Statbook
