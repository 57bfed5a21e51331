import Statbook.Stat.Operation
import Statbook.Query.Constraint

/-!
# Queries

A query is put together for one evaluation of one statistic: a table, the scopes that were
applied to it, joins and constraints, each in the order in which they were added.
-/

namespace Statbook

open Sql

/-- A query over the rows of one table. -/
structure Query where
  table : String
  scopes : List String
  joins : List String
  constraints : List Constraint
  deriving DecidableEq

namespace Query

/-- The query for all rows of a table. -/
def all (table : String) : Query :=
  ⟨table, [], [], []⟩

/-- The query with the name of a scope noted. -/
def noteScope (query : Query) (name : String) : Query :=
  { query with scopes := query.scopes ++ [name] }

/-- The query with joins added. -/
def addJoins (query : Query) (clauses : List String) : Query :=
  { query with joins := query.joins ++ clauses }

/-- The query with constraints added. -/
def constrain (query : Query) (constraints : List Constraint) : Query :=
  { query with constraints := query.constraints ++ constraints }

/-- The conditions of the query joined by `AND`, in pieces; nothing without constraints. -/
def conditionPieces (query : Query) : List Piece :=
  joinPieces " AND " (query.constraints.map (Constraint.pieces query.table))

/-- The statement that selects `projection` from the rows of the query, in pieces. -/
def select (query : Query) (projection : String) : List Piece :=
  .text ("SELECT " ++ projection ++ " FROM " ++ quoteIdent query.table) ::
    (query.joins.map fun clause => .text (" " ++ clause)) ++
    (if query.constraints.isEmpty then [] else .text " WHERE " :: query.conditionPieces)

/-- All columns of the table of the query. -/
def rowProjection (query : Query) : String :=
  quoteIdent query.table ++ ".*"

/-- The statement that selects the rows of the query, in pieces. -/
def selectRows (query : Query) : List Piece :=
  query.select query.rowProjection

/-- The statement that takes an aggregate over a column of the query, in pieces. -/
def selectAggregate (query : Query) (operation : Operation) (column : String) : List Piece :=
  query.select (operation.projection (qualifyColumn query.table column))

/-- The conditions of the query joined by `AND`, if there are any; their values are given to a
writer. -/
def writeConditions (query : Query) : Writing (Option String) :=
  if query.constraints.isEmpty then pure none
  else do
    let parts ← query.constraints.mapM (Constraint.write query.table)
    pure (some (Text.joinWith " AND " parts))

/-- The statement that selects `projection` from the rows of the query; its values are given to a
writer. -/
def write (query : Query) (projection : String) : Writing String := do
  let start := "SELECT " ++ projection ++ " FROM " ++ quoteIdent query.table
  let joined := query.joins.foldl (fun sql clause => sql ++ " " ++ clause) start
  match ← query.writeConditions with
  | some conditions => pure (joined ++ " WHERE " ++ conditions)
  | none => pure joined

/-- The statement that selects the rows of the query. -/
def writeRows (query : Query) : Writing String :=
  query.write query.rowProjection

/-- The statement that takes an aggregate over a column of the query. -/
def writeAggregate (query : Query) (operation : Operation) (column : String) : Writing String :=
  query.write (operation.projection (qualifyColumn query.table column))

/-- The statement that selects the rows of the query, with its values as literals. -/
def sqlText (query : Query) : String :=
  (query.writeRows .inline).1

/-- The conditions of the query with their values as literals, if there are any. -/
def conditionText? (query : Query) : Option String :=
  (query.writeConditions .inline).1

end Query

end Statbook
