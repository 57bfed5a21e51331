import Statbook.Filter.Filters

/-!
# Options that depend on the filters

An option of a statistic is fixed when the statistic is defined, or computed from the filters
of each question. Computed options that can be written down are choices by a test.
-/

namespace Statbook

/-- An option that is fixed, or computed from the filters. -/
inductive Dynamic (α : Type) where
  | fixed (value : α)
  | computed (compute : Filters → α)

/-- The option under some filters. -/
def Dynamic.resolve {α : Type} (option : Dynamic α) (filters : Filters) : α :=
  match option with
  | fixed value => value
  | computed compute => compute filters

/-- A question about the filters. -/
inductive FilterTest where
  /-- The key is there, be it with a null value. -/
  | has (key : String)
  /-- The key has this text as its value. -/
  | textIs (key text : String)
  /-- The key has a greater integer as its value. -/
  | intAbove (key : String) (bound : Int64)
  deriving DecidableEq

/-- The answer to a test. -/
def FilterTest.holds (filters : Filters) : FilterTest → Bool
  | has key => (filters.get? key).isSome
  | textIs key text => filters.text? key == some text
  | intAbove key bound =>
    match (filters.get? key).bind FilterValue.int? with
    | some n => bound < n
    | none => false

/-- The option that a test decides. -/
def Dynamic.choice {α : Type} (test : FilterTest) (yes no : α) : Dynamic α :=
  .computed fun filters => if test.holds filters then yes else no

end Statbook
