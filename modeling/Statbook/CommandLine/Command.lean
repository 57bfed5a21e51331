import Statbook.CommandLine.FilterArgument

/-!
# Commands

What can be asked for on the command line, and the options with which it is asked.
-/

namespace Statbook.CommandLine

/-- The words for commands. -/
inductive Verb where
  | names
  | get
  | fresh
  | all
  | sql
  | rows
  deriving DecidableEq, Repr

namespace Verb

/-- The words in order. -/
def verbs : List Verb :=
  [names, get, fresh, all, sql, rows]

/-- The word itself. -/
def word : Verb → String
  | names => "names"
  | get => "get"
  | fresh => "fresh"
  | all => "all"
  | sql => "sql"
  | rows => "rows"

/-- The verb of a word. -/
def ofWord? (word : String) : Option Verb :=
  verbs.find? fun verb => verb.word == word

/-- Whether a command is about one statistic, which it names. -/
def takesName : Verb → Bool
  | get | fresh | sql | rows => true
  | names | all => false

/-- Whether a command takes filters. -/
def takesFilters (verb : Verb) : Bool :=
  verb ≠ names

end Verb

/-- Filters in the order in which they were given. -/
abbrev FilterArguments := List (String × FilterValue)

/-- A command. -/
inductive Command where
  /-- The names of the statistics of a model. -/
  | names
  /-- The value of a statistic. -/
  | get (name : String) (filters : FilterArguments)
  /-- The value of a statistic, evaluated anew. -/
  | fresh (name : String) (filters : FilterArguments)
  /-- The values of all statistics but one. -/
  | all (filters : FilterArguments) (except : Option String)
  /-- The statement for the rows behind a statistic. -/
  | sql (name : String) (filters : FilterArguments)
  /-- The rows behind a statistic, up to a number. -/
  | rows (name : String) (filters : FilterArguments) (limit : Nat)

/-- What a command line asks for. -/
structure Invocation where
  /-- The file of the database. -/
  database : Option String
  /-- The file of the configuration. -/
  config : Option String
  model : Option String
  /-- Whether answers are written as JSON. -/
  json : Bool
  command : Option Command

/-- The number of rows that are shown if no other is asked for. -/
def defaultLimit : Nat := 50

/-- Why a command line is not carried out. -/
inductive UsageError where
  | helpWanted
  | versionWanted
  /-- An option or a word that has no place. -/
  | unknownArgument
  | unknownCommand
  /-- An option without its value, or a path without characters. -/
  | missingValue
  /-- A value that cannot be read. -/
  | unreadableValue
  /-- A value for an option that takes none. -/
  | surplusValue
  /-- An option that was given before. -/
  | repeated
  /-- A command without the name of a statistic. -/
  | missingName
  deriving DecidableEq, Repr

end Statbook.CommandLine
