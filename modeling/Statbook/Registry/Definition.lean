import Statbook.Backend.Basic
import Statbook.Filter.Dynamic
import Statbook.Filter.Rule

/-!
# Definitions of statistics

A statistic is an aggregate over the rows of its model, or is calculated from other statistics
of the model, its siblings. A calculation is held as what it does step by step, so that it
can be run on any state: it asks for a sibling, for all siblings or for the filters, and goes
on with the answer, be it an error.
-/

namespace Statbook

/-- A calculation on the siblings of a statistic. -/
inductive Derivation where
  /-- The calculation ends. -/
  | done (result : Except StatError StatValue)
  /-- The value of one sibling is asked for. -/
  | sibling (name : String) (next : Except StatError StatValue → Derivation)
  /-- The values of all siblings are asked for, in the order of their definition. -/
  | siblings (next : Except StatError (List (String × StatValue)) → Derivation)
  /-- The filters of the question are asked for. -/
  | filters (next : Filters → Derivation)

/-- An aggregate over the rows of a model. -/
structure AggregateSpec where
  operation : Operation
  column : String
  scopes : List String
  rules : FilterRules
  conditions : List (Dynamic (Option Constraint))
  joins : Option (Dynamic (List String))

/-- The column of an aggregate that names none. -/
def defaultColumn : String := "id"

/-- An aggregate over all rows, on the default column. -/
def AggregateSpec.over (operation : Operation) : AggregateSpec :=
  ⟨operation, defaultColumn, [wholeTableScope], [], [], none⟩

/-- How a statistic gets its value. -/
inductive StatisticKind where
  | aggregate (spec : AggregateSpec)
  | calculated (derivation : Derivation)

/-- A named statistic; with a time to live it is cached. -/
structure Definition where
  name : String
  kind : StatisticKind
  ttl : Option (Dynamic Duration)

/-- Whether the values of a statistic are cached. -/
def Definition.isCacheable (definition : Definition) : Bool :=
  definition.ttl.isSome

end Statbook
