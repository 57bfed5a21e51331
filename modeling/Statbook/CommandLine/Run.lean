import Statbook.Config.Build
import Statbook.Config.Location
import Statbook.Config.Reader
import Statbook.CommandLine.Command
import Statbook.CommandLine.Files

/-!
# Running commands

A command loads the configuration, finds out which model is meant, opens the database, builds
the catalog, and then writes what was asked for. What goes wrong is told with what was being
done.
-/

namespace Statbook.CommandLine

/-- Why a command was not carried out. -/
inductive RunError where
  /-- The configuration at a path, or at the usual place, cannot be used. -/
  | config (path : Option String) (error : ConfigError)
  | undeclaredModel (name : String)
  | noModels
  /-- There are several models and none was chosen. -/
  | severalModels (names : List String)
  | noDatabase
  | database (path : String) (fault : Sqlite.Fault)
  | catalog (flaw : ConfigFlaw)
  | unknownStatistic (name model : String)
  | notAggregate (name model : String)
  | evaluation (name : String) (error : StatError)
  | evaluations (error : StatError)
  | query (name : String) (error : StatError)
  | rows (error : StatError)

namespace RunError

/-- What went wrong with a configuration, and the cause of that. -/
def configChain (error : ConfigError) : List String :=
  error.text :: match error with
    | .unreadable _ cause => [cause]
    | _ => []

/-- The error as it is told, from what was being done to the first cause. -/
def chain : RunError → List String
  | config (some path) error => ("loading config " ++ path) :: configChain error
  | config none error => "loading default config" :: configChain error
  | undeclaredModel name => ["model `" ++ name ++ "` is not declared in the config"]
  | noModels => ["the config declares no models"]
  | severalModels names =>
    ["several models declared (" ++ Text.joinWith ", " names ++ "); pick one with --model"]
  | noDatabase => ["no database given; pass --db or set MSTAT_DB"]
  | database path fault => ["opening database " ++ path, fault.error.text]
  | catalog flaw => ["building statistics catalog", (ConfigError.flawed flaw).text]
  | unknownStatistic name model =>
    ["unknown statistic `" ++ name ++ "` on model `" ++ model ++ "`"]
  | notAggregate name model =>
    ["`" ++ name ++ "` is not an aggregate statistic of `" ++ model ++ "`"]
  | evaluation name error => ["evaluating `" ++ name ++ "`", error.text]
  | evaluations error => ["evaluating statistics", error.text]
  | query name error => ["building query for `" ++ name ++ "`", error.text]
  | rows error => ["fetching rows", error.text]

end RunError

/-- What a command finds: the environment, the files, and the time. -/
structure Surroundings where
  environment : Variables
  files : Files
  now : Timestamp

namespace Surroundings

/-- The configuration in a file. -/
def configAt (s : Surroundings) (path : String) : Except ConfigError Config :=
  match s.files.readText path with
  | .ok text => Config.ofText text
  | .error cause => .error (.unreadable path cause)

/-- The configuration at the usual place, where there need not be any. -/
def usualConfig (s : Surroundings) : Except ConfigError Config :=
  match Config.path? s.environment with
  | none => .error .noDirectory
  | some path => if s.files.holds path then s.configAt path else .ok .empty

/-- The configuration of a command. -/
def config (s : Surroundings) (path : Option String) : Except RunError Config :=
  (match path with
    | some path => s.configAt path
    | none => s.usualConfig).mapError (.config path)

/-- The connection of a command; without a database only the names of statistics can be had. -/
def connection (s : Surroundings) (path : Option String) (command : Command) :
    Except RunError Sqlite.Connection :=
  match path with
  | some path => (s.files.openDatabase path).mapError (.database path)
  | none =>
    match command with
    | .names => .ok (.ofDatabase (.ok .empty))
    | _ => .error .noDatabase

end Surroundings

/-- The model that is meant: the one that was asked for, or the only one. -/
def chooseModel (config : Config) (asked : Option String) : Except RunError String :=
  match asked, config.models with
  | some name, _ => if (config.model? name).isSome then .ok name else .error (.undeclaredModel name)
  | none, [model] => .ok model.name
  | none, [] => .error .noModels
  | none, models => .error (.severalModels (models.map ModelConfig.name))

/-! ### What is written -/

/-- The text with an end of line. -/
def line (text : String) : String := text ++ "\n"

/-- The names of the statistics of a model. -/
def writeNames (json : Bool) (model : String) (names : List String) : String :=
  if json then
    line (Json.object [("model", .text model), ("statistics", .array (names.map .text))]).render
  else String.join (names.map line)

/-- The value of a statistic. -/
def writeValue (json : Bool) (name : String) (value : StatValue) : String :=
  line (if json then
    (Json.object [("statistic", .text name), ("value", value.toJson)]).render
  else value.text)

/-- The values of several statistics; as JSON they are ordered by their names. -/
def writeValues (json : Bool) (values : List (String × StatValue)) : String :=
  if json then
    let sorted := values.mergeSort fun a b => a.1 ≤ b.1
    line (Json.object (sorted.map fun (name, value) => (name, value.toJson))).render
  else String.join (values.map fun (name, value) => line (name ++ ": " ++ value.text))

/-- The statement behind a statistic. -/
def writeSql (json : Bool) (name sql : String) : String :=
  line (if json then (Json.object [("sql", .text sql), ("statistic", .text name)]).render else sql)

/-- One record: its cells with tabs between them. -/
def recordLine (record : Record) : String :=
  line (Text.joinWith "\t" (record.map fun (column, value) => column ++ "=" ++ value.cell))

/-- A record as JSON. -/
def recordJson (record : Record) : Json :=
  .object (record.map fun (column, value) => (column, value.toJson))

/-- Records. -/
def writeRecords (json : Bool) (records : List Record) : String :=
  if json then line (Json.array (records.map recordJson)).render
  else String.join (records.map recordLine)

/-! ### Commands -/

/-- A registry, its backend, and the session in which it is asked. -/
structure Desk where
  registry : Registry
  session : Session Sqlite.Connection
  json : Bool

namespace Desk

/-- The name of the model. -/
def model (desk : Desk) : String := desk.registry.model.name

/-- The result of a computation in the session. -/
def ask {α : Type} (desk : Desk) (run : Fallible (Session Sqlite.Connection) α) :
    Except StatError α :=
  (run desk.session).1

/-- The query behind an aggregate statistic. -/
def query (desk : Desk) (name : String) (filters : FilterArguments) : Except RunError Query := do
  let query ← (desk.ask (desk.registry.queryFor Sqlite.Connection.backend name
    (Filters.ofList filters))).mapError (.query name)
  match query with
  | some query => pure query
  | none => .error (.notAggregate name desk.model)

/-- The value of a statistic that was asked for. -/
def value (desk : Desk) (name : String) (result : Except StatError (Option StatValue)) :
    Except RunError String := do
  match ← result.mapError (.evaluation name) with
  | some value => pure (writeValue desk.json name value)
  | none => .error (.unknownStatistic name desk.model)

/-- What a command writes. -/
def carryOut (desk : Desk) : Command → Except RunError String
  | .names => .ok (writeNames desk.json desk.model desk.registry.names)
  | .get name filters =>
    desk.value name (desk.ask (desk.registry.get Sqlite.Connection.backend name
      (Filters.ofList filters)))
  | .fresh name filters =>
    desk.value name (desk.ask (desk.registry.getFresh Sqlite.Connection.backend name
      (Filters.ofList filters)))
  | .all filters except => do
    let values ← (desk.ask (desk.registry.getAll Sqlite.Connection.backend
      (Filters.ofList filters) except)).mapError .evaluations
    pure (writeValues desk.json values)
  | .sql name filters => do
    let query ← desk.query name filters
    pure (writeSql desk.json name query.sqlText)
  | .rows name filters limit => do
    let query ← desk.query name filters
    let records ← (desk.ask (Session.onBackend
      (Sqlite.Connection.backend.fetch query))).mapError .rows
    pure (writeRecords desk.json (records.take limit))

end Desk

/-- What an invocation writes. Without a command the names of the statistics are written. -/
def Invocation.run (invocation : Invocation) (s : Surroundings) : Except RunError String := do
  let config ← s.config invocation.config
  let command := invocation.command.getD .names
  let model ← chooseModel config invocation.model
  let connection ← s.connection invocation.database command
  let (catalog, session) ← (config.build s.environment s.now connection).mapError .catalog
  match catalog.registry? model with
  | none => .error (.undeclaredModel model)
  | some registry => Desk.carryOut ⟨registry, session, invocation.json⟩ command

end Statbook.CommandLine
