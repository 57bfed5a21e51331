import Statbook.Backend.Basic
import Statbook.Decimal.Reader
import Statbook.Text.Blank
import Statbook.Sqlite.Selection

/-!
# Connections

The backend over a SQLite database. It knows scopes by the table and by their name, each a
list of constraints, and it counts the statements that it runs.
-/

namespace Statbook.Sqlite

/-- A connection to a database. -/
structure Connection where
  /-- The database, or why it cannot be read. -/
  database : Except Fault Database
  /-- The scopes, each under its table and name; the first one found counts. -/
  scopes : List ((String × String) × List Constraint)
  /-- The number of statements that were run. -/
  statements : Nat

namespace Connection

/-- A connection to a database, without scopes. -/
def ofDatabase (database : Except Fault Database) : Connection :=
  ⟨database, [], 0⟩

/-- Declares a scope on a table; an earlier one of the same name is replaced. -/
def defineScope (c : Connection) (table name : String) (constraints : List Constraint) :
    Connection :=
  { c with scopes := ((table, name), constraints) :: c.scopes }

/-- Rows inserted into a table. -/
def insert (c : Connection) (table : String) (rows : List (List Cell)) : Connection :=
  { c with database := c.database.map fun db => db.insert table rows }

/-- The whole table is no scope; any other scope has to be known. -/
def applyScope (c : Connection) (query : Query) (scope : String) : Except StatError Query :=
  if scope = wholeTableScope then .ok query
  else match c.scopes.lookup (query.table, scope) with
    | some constraints => .ok ((query.noteScope scope).constrain constraints)
    | none => .error (.unknownScope query.table scope)

/-- Runs a statement and counts it. -/
def run (statement : Sql.Writing String) : Fallible Connection Answer := fun c =>
  let (sql, writer) := statement .fresh
  let answer := c.database >>= fun db => db.run sql (writer.values.map Cell.ofSqlValue)
  (answer.mapError Fault.error, { c with statements := c.statements + 1 })

/-- The value of a statistic that a cell is. An aggregate of nothing is zero for counts and
sums, and a text counts if it is a number. -/
def valueOfCell (operation : Operation) : Cell → StatValue
  | .null =>
    match operation with
    | .count | .sum => .int 0
    | _ => .null
  | .integer value => .int value
  | .real value => .float value
  | .text value =>
    match Decimal.readFloat? (Text.trim value).toList with
    | some x => .float x
    | none => .null
  | .blob _ => .null

/-- The value of an aggregate over the rows of a query. -/
def aggregate (query : Query) (operation : Operation) (column : String) :
    Fallible Connection StatValue := do
  let answer ← run (query.writeAggregate operation column)
  pure (valueOfCell operation ((answer.rows.head?.bind List.head?).getD .null))

/-- A record with a column put in its place by name; an earlier one of that name is
replaced. -/
def insertColumn (column : String) (value : SqlValue) : Record → Record
  | [] => [(column, value)]
  | (other, old) :: record =>
    if column < other then (column, value) :: (other, old) :: record
    else if column = other then (column, value) :: record
    else (other, old) :: insertColumn column value record

/-- The record of a row. -/
def recordOf (names : List String) (row : List Cell) : Record :=
  (names.zip row).foldl (fun record (name, cell) => insertColumn name cell.toSqlValue record) []

/-- The rows of a query. -/
def fetch (query : Query) : Fallible Connection (List Record) := do
  let answer ← run query.writeRows
  pure (answer.rows.map (recordOf answer.names))

/-- The backend that asks a SQLite database. -/
def backend : Backend Connection where
  applyScope := applyScope
  aggregate := aggregate
  fetch := fetch

end Connection

end Statbook.Sqlite
