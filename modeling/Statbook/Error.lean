/-!
# Errors

What can go wrong when a statistic is evaluated, and how it is told. A failure of the
database carries a kind, by which the retry policy decides whether another attempt is worth
its while.
-/

namespace Statbook

/-- The kinds of failure that a database reports. -/
inductive FailureKind where
  /-- Two transactions cannot both take effect. -/
  | serialization
  /-- Another writer holds the database. -/
  | busy
  /-- A table is locked within the connection. -/
  | locked
  /-- The database cannot be reached or opened. -/
  | connection
  /-- The query is rejected. -/
  | malformed
  | other
  deriving DecidableEq, Repr

/-- The kinds in order. -/
def FailureKind.kinds : List FailureKind :=
  [.serialization, .busy, .locked, .connection, .malformed, .other]

/-- The name of a kind of failure. -/
def FailureKind.name : FailureKind → String
  | serialization => "serialization"
  | busy => "busy"
  | locked => "locked"
  | connection => "connection"
  | malformed => "malformed"
  | other => "other"

/-- The kind of failure with this name. -/
def FailureKind.ofName? (name : String) : Option FailureKind :=
  kinds.find? fun kind => kind.name == name

/-- A failure that a database reports. -/
structure BackendFailure where
  kind : FailureKind
  message : String
  deriving DecidableEq, Repr

/-- The failure as it is told. -/
def BackendFailure.text (failure : BackendFailure) : String :=
  failure.kind.name ++ " backend error: " ++ failure.message

/-- Why a statistic has no value. -/
inductive StatError where
  /-- No rule says what the filter key means. -/
  | unknownFilterKey (key : String)
  /-- The rule of a filter key cannot use the value. -/
  | invalidFilterValue (key reason : String)
  /-- The database does not know a scope. -/
  | unknownScope (table scope : String)
  /-- Calculated statistics refer to one another too deeply. -/
  | derivationDepth (name : String)
  /-- The database failed. -/
  | backend (failure : BackendFailure)
  deriving DecidableEq, Repr

/-- The error as it is told. -/
def StatError.text : StatError → String
  | unknownFilterKey key =>
    "Invalid filter key `" ++ key ++ "`: no filter rule and not a time range"
  | invalidFilterValue key reason => "Invalid value for filter `" ++ key ++ "`: " ++ reason
  | unknownScope table scope => "Unknown scope `" ++ scope ++ "` on table `" ++ table ++ "`"
  | derivationDepth name =>
    "Calculated statistic `" ++ name ++ "` exceeded the derivation depth limit"
  | backend failure => failure.text

/-- The kind of failure, if the database is to blame. -/
def StatError.failureKind? : StatError → Option FailureKind
  | backend failure => some failure.kind
  | _ => none

end Statbook
