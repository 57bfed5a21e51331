import Statbook.Text.Blank
import Statbook.Sqlite.Affinity

/-!
# Databases

A database holds tables, and a table its columns and its rows in the order in which they were
inserted. Names are the same up to the case of their ASCII letters.
-/

namespace Statbook.Sqlite

/-- A column of a table. -/
structure Column where
  name : String
  affinity : Affinity
  deriving DecidableEq, Repr

/-- The column with a declared type. -/
def Column.declared (name type : String) : Column :=
  ⟨name, Affinity.ofDeclared type⟩

/-- A table. -/
structure Table where
  name : String
  columns : List Column
  /-- A cell for each column, row by row. -/
  rows : List (List Cell)

namespace Table

/-- A table without rows. -/
def empty (name : String) (columns : List Column) : Table :=
  ⟨name, columns, []⟩

/-- The cells that columns hold for given ones; where none is given, nothing is held. -/
def storedRow : List Column → List Cell → List Cell
  | [], _ => []
  | c :: columns, [] => c.affinity.store .null :: storedRow columns []
  | c :: columns, cell :: cells => c.affinity.store cell :: storedRow columns cells

/-- The table with rows inserted after those that it has. -/
def insert (t : Table) (rows : List (List Cell)) : Table :=
  { t with rows := t.rows ++ rows.map (storedRow t.columns) }

end Table

/-- A database. -/
structure Database where
  tables : List Table

namespace Database

/-- A database without tables. -/
def empty : Database := ⟨[]⟩

/-- The table with a name. -/
def table? (db : Database) (name : String) : Option Table :=
  db.tables.find? fun t => Text.sameIgnoringAsciiCase t.name name

/-- The database with a table added. -/
def create (db : Database) (t : Table) : Database :=
  ⟨db.tables ++ [t]⟩

/-- The database with rows inserted into a table. -/
def insert (db : Database) (name : String) (rows : List (List Cell)) : Database :=
  ⟨db.tables.map fun t => if Text.sameIgnoringAsciiCase t.name name then t.insert rows else t⟩

end Database

end Statbook.Sqlite
