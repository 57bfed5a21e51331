import Statbook.Retry.Settings
import Statbook.CommandLine.Command

/-!
# Options

The options of the command line, and what was given for them at one level: before the word for
the command, or after it. Most options stand at either level.
-/

namespace Statbook.CommandLine

/-- An option. -/
inductive Setting where
  | database
  | config
  | model
  | json
  | help
  | version
  | filter
  | except
  | limit
  deriving DecidableEq, Repr

/-- A level of the command line: that of the program, or that of a command. -/
abbrev Level := Option Verb

namespace Setting

/-- The options in order. -/
def settings : List Setting :=
  [database, config, model, json, help, version, filter, except, limit]

/-- The long name of an option, which follows two dashes. -/
def longName : Setting → String
  | database => "db"
  | config => "config"
  | model => "model"
  | json => "json"
  | help => "help"
  | version => "version"
  | filter => "filter"
  | except => "except"
  | limit => "limit"

/-- The letter of an option, which follows one dash. -/
def letter? : Setting → Option Char
  | model => some 'm'
  | help => some 'h'
  | version => some 'V'
  | filter => some 'f'
  | _ => none

/-- Whether an option takes a value. -/
def takesValue : Setting → Bool
  | json | help | version => false
  | _ => true

/-- Whether an option may be given at a level. -/
def standsAt (level : Level) : Setting → Bool
  | version => level.isNone
  | filter => level.any Verb.takesFilters
  | except => level = some .all
  | limit => level = some .rows
  | _ => true

/-- The option with a long name. -/
def ofLongName? (level : Level) (name : String) : Option Setting :=
  settings.find? fun s => s.standsAt level && s.longName == name

/-- The option with a letter. -/
def ofLetter? (level : Level) (letter : Char) : Option Setting :=
  settings.find? fun s => s.standsAt level && s.letter? == some letter

end Setting

/-- What was given at one level. -/
structure Given where
  database : Option String
  config : Option String
  model : Option String
  json : Bool
  name : Option String
  filters : FilterArguments
  except : Option String
  limit : Option Nat

namespace Given

/-- Nothing was given. -/
def nothing : Given :=
  ⟨none, none, none, false, none, [], none, none⟩

/-- A value in a place where none may be yet. -/
def onlyOnce {α : Type} (place : Option α) (value : α) : Except UsageError (Option α) :=
  if place.isSome then .error .repeated else .ok (some value)

/-- A path is not empty. -/
def path (text : String) : Except UsageError String :=
  if text = "" then .error .missingValue else .ok text

/-- A number of rows. -/
def rowLimit (text : String) : Except UsageError Nat :=
  match Decimal.readBelow? UInt64.size text.toList with
  | some n => .ok n
  | none => .error .unreadableValue

/-- What was given together with an option and its value; options without a value are given
with an empty one. -/
def add (g : Given) (setting : Setting) (value : String) : Except UsageError Given :=
  match setting with
  | .help => .error .helpWanted
  | .version => .error .versionWanted
  | .json => if g.json then .error .repeated else .ok { g with json := true }
  | .database => do
    let _ ← onlyOnce g.database value
    pure { g with database := some (← path value) }
  | .config => do
    let _ ← onlyOnce g.config value
    pure { g with config := some (← path value) }
  | .model => do pure { g with model := ← onlyOnce g.model value }
  | .except => do pure { g with except := ← onlyOnce g.except value }
  | .filter =>
    match readFilter value with
    | .ok filter => .ok { g with filters := g.filters ++ [filter] }
    | .error _ => .error .unreadableValue
  | .limit => do
    let _ ← onlyOnce g.limit 0
    pure { g with limit := some (← rowLimit value) }

/-- The variable that names the file of the database. -/
def databaseVariable : String := "MSTAT_DB"

/-- What was given, with the environment standing in for the database. -/
def withVariables (g : Given) (environment : Variables) : Except UsageError Given :=
  match g.database, environment.lookup databaseVariable with
  | none, some value => do pure { g with database := some (← path value) }
  | _, _ => .ok g

/-- The command of a verb, if everything was given that it needs. -/
def command (g : Given) : Verb → Except UsageError Command
  | .names => .ok .names
  | .all => .ok (.all g.filters g.except)
  | verb =>
    match g.name with
    | none => .error .missingName
    | some name =>
      match verb with
      | .fresh => .ok (.fresh name g.filters)
      | .sql => .ok (.sql name g.filters)
      | .rows => .ok (.rows name g.filters (g.limit.getD defaultLimit))
      | _ => .ok (.get name g.filters)

end Given

end Statbook.CommandLine
