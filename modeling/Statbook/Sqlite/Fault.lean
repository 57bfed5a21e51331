import Statbook.Error

/-!
# Faults of SQLite

What SQLite has against a statement, and the kind of failure that this is for whoever
evaluates statistics.
-/

namespace Statbook.Sqlite

/-- A mistake in the use of a statement or of what it gives. -/
inductive Misuse where
  | statement
  | columnIndex
  | columnName
  | columnType
  /-- A row is expected and there is none. -/
  | noRow
  | other
  deriving DecidableEq, Repr

/-- What SQLite has against a statement. -/
inductive Fault where
  /-- It ends with a result code, whose low eight bits are its primary code. -/
  | result (code : Int) (message : String)
  /-- It is rejected at a byte of its text. -/
  | rejected (message statement : String) (offset : Nat)
  /-- It is given another number of values than it needs. -/
  | valueCount (given needed : Nat)
  | misuse (misuse : Misuse) (message : String)
  deriving DecidableEq, Repr

namespace Fault

/-- The result code of an error that has no code of its own. -/
def generalCode : Int := 1

/-- The result code where a read cannot be turned into a write, because another connection
has written since. -/
def staleSnapshotCode : Int := 517

/-- The kind of failure of a result code. Codes without a meaning of their own count as
errors of the statement. -/
def kindOfCode (code : Int) : FailureKind :=
  match (code % 256).toNat with
  | 5 => if code = staleSnapshotCode then .serialization else .busy
  | 6 => .locked
  | 14 | 26 => .connection
  | primary =>
    if [2, 3, 4, 7, 8, 9, 10, 11, 12, 13, 15, 17, 18, 19, 20, 21, 22, 23, 25].contains primary then
      .other
    else .malformed

/-- The kind of failure that a fault is. -/
def kind : Fault → FailureKind
  | result code _ => kindOfCode code
  | rejected .. => .other
  | valueCount .. => .malformed
  | misuse .other _ => .other
  | misuse _ _ => .malformed

/-- A fault as it is told. -/
def message : Fault → String
  | result _ message => message
  | rejected message statement offset =>
    message ++ " in " ++ statement ++ " at offset " ++ toString offset
  | valueCount given needed =>
    "Wrong number of parameters passed to query. Got " ++ toString given ++ ", needed " ++
      toString needed
  | misuse _ message => message

/-- The failure that a fault is. -/
def failure (fault : Fault) : BackendFailure :=
  ⟨fault.kind, fault.message⟩

/-- The error that a fault is. -/
def error (fault : Fault) : StatError :=
  .backend fault.failure

end Fault

end Statbook.Sqlite
