/-!
# Operations

The aggregates that a statistic can take over a column.
-/

namespace Statbook

/-- An aggregate over a column. -/
inductive Operation where
  | count
  | sum
  | average
  | minimum
  | maximum
  deriving DecidableEq, Repr

namespace Operation

/-- The operations in order. -/
def operations : List Operation :=
  [count, sum, average, minimum, maximum]

/-- The name of an operation. -/
def name : Operation → String
  | count => "count"
  | sum => "sum"
  | average => "average"
  | minimum => "minimum"
  | maximum => "maximum"

/-- The operation with this name. -/
def ofName? (name : String) : Option Operation :=
  operations.find? fun operation => operation.name == name

/-- The SQL function of an operation. -/
def function : Operation → String
  | count => "COUNT"
  | sum => "SUM"
  | average => "AVG"
  | minimum => "MIN"
  | maximum => "MAX"

/-- The SQL expression that applies an operation to a column in SQL. -/
def projection (operation : Operation) (column : String) : String :=
  operation.function ++ "(" ++ column ++ ")"

end Operation

end Statbook
