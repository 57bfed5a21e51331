import Statbook.Sqlite.Database
import Statbook.Sqlite.Evaluation
import Statbook.Sqlite.Statement
import Statbook.Sqlite.Fault

/-!
# Relations

The rows that a statement works on: those of its table with the rows of joined tables beside
them. A column is found in them by its name, and by the name of its table where that is given.
Besides its columns each table has the number of the row, which is shown only to those who
ask for it.
-/

namespace Statbook.Sqlite

/-- What stands in one place of every row. -/
structure Heading where
  /-- The name under which the statement knows the table. -/
  table : String
  column : String
  affinity : Affinity
  /-- Whether it is the number of the row. -/
  isRowNumber : Bool
  deriving DecidableEq, Repr

/-- Rows and what stands in their places. -/
structure Relation where
  headings : List Heading
  rows : List (List Cell)

namespace Relation

/-- The names of the number of a row. -/
def rowNumberNames : List String :=
  ["rowid", "oid", "_rowid_"]

/-- The rows with their number, counted from `number` on, at their end. -/
def numberRows : (number : Nat) → List (List Cell) → List (List Cell)
  | _, [] => []
  | number, row :: rows =>
    (row ++ [.integer (Int64.ofNat number)]) :: numberRows (number + 1) rows

/-- The rows of a table under a name. -/
def ofTable (label : String) (t : Table) : Relation where
  headings := (t.columns.map fun c => ⟨label, c.name, c.affinity, false⟩) ++
    [⟨label, "rowid", .integer, true⟩]
  rows := numberRows 1 t.rows

/-- The headings with the places where they stand. -/
def places (r : Relation) : List (Heading × Place) :=
  r.headings.mapIdx fun index heading => (heading, ⟨index, heading.affinity⟩)

/-- Whether a name stands for a heading. -/
def isNamedBy (table? : Option String) (column : String) (heading : Heading) : Bool :=
  (match table? with
    | some table => Text.sameIgnoringAsciiCase heading.table table
    | none => true) &&
  if heading.isRowNumber then rowNumberNames.contains column.toLower
  else Text.sameIgnoringAsciiCase heading.column column

/-- The places that a name stands for; the number of the row only if no column has the name. -/
def placesOf (r : Relation) (table? : Option String) (column : String) : List Place :=
  let named := r.places.filter fun (heading, _) => isNamedBy table? column heading
  let (numbers, columns) := named.partition fun (heading, _) => heading.isRowNumber
  (if columns.isEmpty then numbers else columns).map Prod.snd

/-- The name of the database. -/
def databaseName : String := "main"

/-- The place of a column. `reject` makes a fault of what is wrong with the name. -/
def resolveColumn (r : Relation) (reject : String → Nat → Fault) (name : ColumnName) :
    Except Fault Resolved :=
  let found := match name.parts with
    | [column] => r.placesOf none column
    | [table, column] => r.placesOf (some table) column
    | [database, table, column] =>
      if Text.sameIgnoringAsciiCase database databaseName then r.placesOf (some table) column
      else []
    | _ => []
  let written := Text.joinWith "." name.parts
  match found with
  | [place] => .ok (.column place)
  | [] =>
    match name.otherwise with
    | some cell => .ok (.literal cell)
    | none => .error (reject ("no such column: " ++ written) name.bytesOnward)
  | _ => .error (reject ("ambiguous column name: " ++ written) name.bytesOnward)

/-- Every row of `r` beside the rows of `s` with which it meets a condition. -/
def join (kind : JoinKind) (r s : Relation) (condition : List Cell → Bool) : Relation where
  headings := r.headings ++ s.headings
  rows := r.rows.flatMap fun row =>
    let met := (s.rows.map (row ++ ·)).filter condition
    if kind = .left ∧ met.isEmpty then [row ++ s.headings.map fun _ => .null] else met

/-- The rows that meet all of some conditions. -/
def filter (r : Relation) (conditions : List Resolved) : Relation :=
  { r with rows := r.rows.filter fun row => conditions.all fun condition => condition.holdsIn row }

/-- Whether a heading is a column of the table with a name. -/
def isColumnOf (label : String) (heading : Heading) : Bool :=
  !heading.isRowNumber && Text.sameIgnoringAsciiCase heading.table label

/-- The first column of the tables with a name that several of them have. -/
def repeated? (r : Relation) (label : String) : Option Heading :=
  (r.headings.filter (isColumnOf label)).find? fun heading =>
    1 < (r.placesOf (some label) heading.column).length

/-- The names of the columns of one table, and the places where they stand. -/
def columnsOf (r : Relation) (label : String) : List (String × Place) :=
  (r.places.filter fun (heading, _) => isColumnOf label heading).map
    fun (heading, place) => (heading.column, place)

end Relation

end Statbook.Sqlite
