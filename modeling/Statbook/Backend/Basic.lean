import Statbook.Error
import Statbook.Stat.Value
import Statbook.Query.Basic

/-!
# Backends

What a registry asks of a database: to put a named scope on a query, to take an aggregate over
the rows of a query, and to fetch those rows. The database is a state that aggregates and
fetches may change.
-/

namespace Statbook

/-- The scope that stands for the whole table. -/
def wholeTableScope : String := "all"

/-- A row as it is fetched: the value of each column, in the order of the names. -/
abbrev Record := List (String × SqlValue)

/-- A computation on a state that may fail; the state outlives the failure. -/
abbrev Fallible (σ α : Type) := ExceptT StatError (StateM σ) α

/-- A database with the state `σ`. -/
structure Backend (σ : Type) where
  /-- The query with a named scope put on it. -/
  applyScope : σ → Query → String → Except StatError Query
  /-- The value of an aggregate over a column of the rows of a query. -/
  aggregate : Query → Operation → String → Fallible σ StatValue
  /-- The rows of a query. -/
  fetch : Query → Fallible σ (List Record)

/-- The column that stands for whole rows. -/
def wholeRowColumn : String := "*"

/-- The number of rows of a query. -/
def Backend.count {σ : Type} (backend : Backend σ) (query : Query) : Fallible σ Int64 := do
  let value ← backend.aggregate query .count wholeRowColumn
  pure (value.toInt?.getD 0)

end Statbook
