import Statbook.Backend.Basic

/-!
# Scripted backends

A backend without a database: it answers from a script and keeps a log of what it was asked.
-/

namespace Statbook

/-- What a backend was asked: an aggregate, or the rows, with the statement and its values. -/
structure Call where
  /-- The aggregate that was asked for; none where rows were. -/
  operation : Option Operation
  sql : String
  values : List SqlValue
  deriving DecidableEq

/-- The call that a statement amounts to. -/
def Call.ofStatement (operation : Option Operation) (statement : Sql.Writing String) : Call :=
  let (sql, writer) := statement .fresh
  ⟨operation, sql, writer.values⟩

/-- The answers of a scripted backend and what it was asked so far. -/
structure Script where
  scopes : List (String × List Constraint)
  /-- The answers that are still to be given, one for each question. -/
  answers : List (Except StatError StatValue)
  /-- The answer once no other is left. -/
  otherwise : Except StatError StatValue
  rows : List Record
  /-- What was asked, in order. -/
  calls : List Call

namespace Script

/-- The script with a call noted. -/
def note (script : Script) (call : Call) : Script :=
  { script with calls := script.calls ++ [call] }

/-- The next answer of the queue, if one is left. -/
def next? (script : Script) : Option (Except StatError StatValue) × Script :=
  match script.answers with
  | [] => (none, script)
  | answer :: answers => (some answer, { script with answers })

/-- A known scope is noted and its constraints are added. -/
def applyScope (script : Script) (query : Query) (scope : String) : Except StatError Query :=
  match script.scopes.lookup scope with
  | some constraints => .ok ((query.noteScope scope).constrain constraints)
  | none => .error (.unknownScope query.table scope)

/-- Notes the call and gives the next answer. -/
def aggregate (query : Query) (operation : Operation) (column : String) :
    Fallible Script StatValue := fun script =>
  let script := script.note (.ofStatement (some operation) (query.writeAggregate operation column))
  let (answer, script) := script.next?
  (answer.getD script.otherwise, script)

/-- Notes the call and gives the rows, unless the next answer is an error. -/
def fetch (query : Query) : Fallible Script (List Record) := fun script =>
  let script := script.note (.ofStatement none query.writeRows)
  match script.next? with
  | (some (.error error), script) => (.error error, script)
  | (_, script) => (.ok script.rows, script)

/-- The backend that follows a script. -/
def backend : Backend Script where
  applyScope := applyScope
  aggregate := aggregate
  fetch := fetch

end Script

end Statbook
