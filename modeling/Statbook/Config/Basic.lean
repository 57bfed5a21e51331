import Statbook.Text.Blank
import Statbook.Stat.Operation
import Statbook.Registry.Definition
import Statbook.Retry.Settings

/-!
# Configurations

What can be declared without code: the size of the cache, how failures are retried, and models
with their scopes, the rules of their filters and their aggregate statistics. A configuration
is sound if its models can be told apart, have tables, and tell their statistics apart.
-/

namespace Statbook

/-- The kinds of rules that can be declared. -/
inductive RuleKind where
  | equality
  | day
  | window
  | template
  deriving DecidableEq, Repr

namespace RuleKind

/-- The kinds in order. -/
def kinds : List RuleKind :=
  [equality, day, window, template]

/-- The name of a kind of rule. -/
def name : RuleKind → String
  | equality => "default"
  | day => "day_range"
  | window => "time_range"
  | template => "template"

/-- The kind of rule with this name. -/
def ofName? (name : String) : Option RuleKind :=
  kinds.find? fun kind => kind.name == name

end RuleKind

/-- A filter rule as it is declared. -/
inductive DeclaredRule where
  /-- The pattern of a template alone. -/
  | brief (pattern : String)
  /-- A kind of rule and what it needs: the field of a window, the column that stands in for
  that of the key, the pattern of a template. -/
  | detailed (kind : RuleKind) (field column pattern : Option String)
  deriving DecidableEq, Repr

/-- Declared rules in the order of their keys. -/
abbrev DeclaredRules := List (String × DeclaredRule)

/-- An aggregate statistic as it is declared. -/
structure StatisticConfig where
  name : String
  operation : Operation
  column : String
  scopes : List String
  rules : DeclaredRules
  conditions : List String
  joins : List String
  /-- The time to live in seconds. -/
  ttlSeconds : Option UInt64
  deriving DecidableEq

/-- A model as it is declared. -/
structure ModelConfig where
  name : String
  table : String
  /-- The conditions of each scope, in the order of the names. -/
  scopes : List (String × List String)
  rules : DeclaredRules
  statistics : List StatisticConfig
  deriving DecidableEq

/-- A configuration. -/
structure Config where
  cacheCapacity : Nat
  retry : RetrySettings
  /-- The rules that every model has. -/
  rules : DeclaredRules
  models : List ModelConfig
  deriving DecidableEq

/-- What is wrong with a configuration that could be read. -/
inductive ConfigFlaw where
  | unnamedModel
  | missingTable (model : String)
  | duplicateModel (name : String)
  | duplicateStatistic (name model : String)
  /-- A rule for a window names no field. -/
  | missingField (key : String)
  /-- A rule for a template has no pattern. -/
  | missingPattern (key : String)
  deriving DecidableEq, Repr

/-- A flaw as it is told. -/
def ConfigFlaw.text : ConfigFlaw → String
  | unnamedModel => "Model name cannot be empty"
  | missingTable model => "Model `" ++ model ++ "` has no table"
  | duplicateModel name => "Duplicate model name: " ++ name
  | duplicateStatistic name model =>
    "Duplicate statistic `" ++ name ++ "` on model `" ++ model ++ "`"
  | missingField key => "filter `" ++ key ++ "`: time_range needs `field`"
  | missingPattern key => "filter `" ++ key ++ "`: template needs `pattern`"

/-- Why there is no configuration, or none that can be used. -/
inductive ConfigError where
  /-- The file cannot be read. -/
  | unreadable (path cause : String)
  /-- The text is no TOML, or not of the right shape. -/
  | unparsable
  /-- There is no place where a configuration would be looked for. -/
  | noDirectory
  | flawed (flaw : ConfigFlaw)
  deriving DecidableEq, Repr

/-- An error as it is told. -/
def ConfigError.text : ConfigError → String
  | unreadable path cause => "Failed to read config file " ++ path ++ ": " ++ cause
  | unparsable => "Failed to parse config file"
  | noDirectory => "Could not determine config directory"
  | flawed flaw => "Validation error: " ++ flaw.text

namespace Config

/-- The number of cached values where no other is set. -/
def defaultCapacity : Nat := 1024

/-- A configuration that declares nothing. -/
def empty : Config :=
  ⟨defaultCapacity, .none, [], []⟩

/-- The first name that stands in a list for the second time, or is among `seen`. -/
def firstRepeated? (seen : List String) : List String → Option String
  | [] => none
  | name :: names =>
    if seen.contains name then some name else firstRepeated? (name :: seen) names

/-- The first flaw of a model that comes after models with the names `seen`. -/
def modelFlaw? (seen : List String) (model : ModelConfig) : Option ConfigFlaw :=
  if Text.isBlankText model.name then some .unnamedModel
  else if Text.isBlankText model.table then some (.missingTable model.name)
  else if seen.contains model.name then some (.duplicateModel model.name)
  else (firstRepeated? [] (model.statistics.map StatisticConfig.name)).map fun name =>
    .duplicateStatistic name model.name

/-- The first flaw of models that come after models with the names `seen`. -/
def modelsFlaw? (seen : List String) : List ModelConfig → Option ConfigFlaw
  | [] => none
  | model :: models =>
    (modelFlaw? seen model).or (modelsFlaw? (model.name :: seen) models)

/-- The first flaw of a configuration. -/
def flaw? (config : Config) : Option ConfigFlaw :=
  modelsFlaw? [] config.models

/-- The declaration of a model. -/
def model? (config : Config) (name : String) : Option ModelConfig :=
  config.models.find? fun model => model.name = name

end Config

end Statbook
