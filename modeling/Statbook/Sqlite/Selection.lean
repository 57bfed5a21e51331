import Statbook.Sqlite.Relation
import Statbook.Sqlite.Aggregate

/-!
# Running statements

A statement is read, its tables are found, its columns are found in them, its values are
counted, and then it is run. The first of these steps that fails tells why.
-/

namespace Statbook.Sqlite

/-- What a statement gives: the names of its columns, and its rows. -/
structure Answer where
  names : List String
  rows : List (List Cell)

namespace Database

/-- The table of a source under its name there. -/
def relationOf (db : Database) (source : Source) : Except Fault Relation :=
  match db.table? source.table with
  | some t => .ok (.ofTable source.label t)
  | none => .error (.result Fault.generalCode ("no such table: " ++ source.table))

/-- The projection with its columns found. -/
def resolveProjection (reject : String → Nat → Fault) (r : Relation)
    (resolve : Unresolved → Except Fault Resolved) :
    Projection ColumnName Nat → Except Fault (Projection Place Cell)
  | .columnsOf label =>
    if r.headings.any fun heading => Text.sameIgnoringAsciiCase heading.table label then
      match r.repeated? label with
      | none => .ok (.columnsOf label)
      | some heading =>
        let name := Text.joinWith "." [Relation.databaseName, heading.table, heading.column]
        .error (.result Fault.generalCode ("ambiguous column name: " ++ name))
    else .error (.result Fault.generalCode ("no such table: " ++ label))
  | .aggregate operation argument => (resolve argument).map (.aggregate operation)
  | .overRows .count place => .ok (.overRows .count place)
  | .overRows operation place =>
    let told := "wrong number of arguments to function " ++ operation.function ++ "()"
    .error (reject told place)

/-- Whether the condition of a left join names a column of a table that is joined after it. Each
join comes with the number of places that its table has. -/
def looksAhead : (width : Nat) → List (Join Place Cell × Nat) → Bool
  | _, [] => false
  | width, (join, places) :: joins =>
    (join.kind = .left && join.condition.reaches (width + places)) ||
      looksAhead (width + places) joins

/-- The statement with its columns found and its values put in. -/
def resolve (db : Database) (reject : String → Nat → Fault) (values : List Cell)
    (s : UnresolvedStatement) : Except Fault (Statement Place Cell) := do
  let first ← db.relationOf s.source
  let others ← s.joins.mapM fun join => db.relationOf join.source
  let r : Relation := ⟨first.headings ++ others.flatMap Relation.headings, []⟩
  let resolve := Expr.resolve (r.resolveColumn reject)
    fun number => (values[number - 1]?).getD .null
  let projection ← resolveProjection reject r resolve s.projection
  let condition ← resolve s.condition
  let joins ← s.joins.mapM fun join => do
    pure ⟨join.kind, join.source, ← resolve join.condition⟩
  if looksAhead first.headings.length (joins.zip (others.map fun r => r.headings.length)) then
    .error (.result Fault.generalCode "ON clause references tables to its right")
  else pure ⟨projection, s.source, joins, condition⟩

/-- The conditions on the rows of all tables together: that of the statement, and those of its
inner joins, which may name columns of any table. -/
def rowConditions (s : Statement Place Cell) : List Resolved :=
  s.condition :: (s.joins.filter fun join => join.kind = .inner).map Join.condition

/-- The rows of a table joined to the rows before. -/
def addJoin (db : Database) (r : Relation) (join : Join Place Cell) : Except Fault Relation :=
  (db.relationOf join.source).map fun other =>
    r.join join.kind other fun row => join.kind = .inner || join.condition.holdsIn row

/-- The rows that a statement selects. -/
def selected (db : Database) (s : Statement Place Cell) : Except Fault Relation := do
  let first ← db.relationOf s.source
  let joined ← s.joins.foldlM db.addJoin first
  pure (joined.filter (rowConditions s))

/-- What a projection gives of rows. -/
def project (projection : Projection Place Cell) (r : Relation) : Except Fault Answer :=
  match projection with
  | .columnsOf label =>
    let columns := r.columnsOf label
    .ok ⟨columns.map Prod.fst, r.rows.map fun row =>
      columns.map fun (_, place) => (row[place.index]?).getD .null⟩
  | .aggregate operation argument =>
    (Aggregate.ofCells operation (r.rows.map (argument.value ·))).map fun cell =>
      ⟨[operation.function], [[cell]]⟩
  | .overRows operation _ =>
    .ok ⟨[operation.function], [[.integer (Int64.ofNat r.rows.length)]]⟩

/-- The statement that tokens make. Reading fails at the first token that is wrong, or at the
end if that comes too early. Misplaced separators in a number are noticed once the token after
the number has been taken. -/
def readStatement (reject : String → Nat → Fault) (tokens : List Token) :
    Except Fault UnresolvedStatement :=
  let plain (message : String) : Fault := .result Fault.generalCode message
  match Statement.ofTokens tokens, Token.firstMisgrouped? tokens with
  | .ok statement, none => .ok statement
  | .ok _, some (told, _) => .error (plain told)
  | .error stop, misgrouped =>
    let reached := (stop.map Token.bytesOnward).getD 0
    match misgrouped.filter fun (_, onward) => reached < onward, stop with
    | some (told, _), _ => .error (plain told)
    | none, some token => .error (reject token.complaint token.bytesOnward)
    | none, none => .error (plain "incomplete input")

/-- The statement that a text is, with its columns found and values put in, if all is well with
it. -/
def prepare (db : Database) (sql : String) (values : List Cell) :
    Except Fault (Statement Place Cell) := do
  let cs := beforeNul sql.toList
  let reject (message : String) (bytesOnward : Nat) : Fault :=
    .rejected message sql (Token.byteLength cs - bytesOnward)
  let tokens := Token.readAll cs
  let statement ← readStatement reject tokens
  let statement ← db.resolve reject values statement
  if let some (told, bytesOnward) := statement.refusedNumbers.getLast? then
    .error (reject ("hex literal too big: " ++ told) bytesOnward)
  let needed := Token.valueCount tokens
  if values.length ≠ needed then
    .error (.valueCount (min values.length (needed + 1)) needed)
  else pure statement

/-- What a statement gives for values. -/
def run (db : Database) (sql : String) (values : List Cell) : Except Fault Answer := do
  let statement ← db.prepare sql values
  project statement.projection (← db.selected statement)

end Database

end Statbook.Sqlite
