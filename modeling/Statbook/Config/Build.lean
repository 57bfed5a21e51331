import Statbook.Config.Basic
import Statbook.Registry.Catalog
import Statbook.Sqlite.Connection

/-!
# From a configuration to a catalog

The models of a configuration become registries of a catalog, and their scopes become scopes
of the connection on the table of the model.
-/

namespace Statbook

namespace DeclaredRule

/-- The rule of a kind, before a column stands in for that of the key. -/
def base (key : String) (field pattern : Option String) : RuleKind → Except ConfigFlaw FilterRule
  | .equality => .ok .equality
  | .day => .ok .day
  | .window =>
    match field with
    | some field => .ok (.window field)
    | none => .error (.missingField key)
  | .template =>
    match pattern with
    | some pattern => .ok (.template pattern)
    | none => .error (.missingPattern key)

/-- The rule for a key. -/
def toRule (key : String) : DeclaredRule → Except ConfigFlaw FilterRule
  | .brief pattern => .ok (.template pattern)
  | .detailed kind field column pattern => do
    let rule ← base key field pattern kind
    match column with
    | some column => pure (.onColumn column rule)
    | none => pure rule

end DeclaredRule

/-- The rules for their keys; the first flaw in their order is the failure. -/
def DeclaredRules.toRules (rules : DeclaredRules) : Except ConfigFlaw FilterRules :=
  rules.mapM fun (key, rule) => do
    let rule ← rule.toRule key
    pure (key, rule)

/-- The aggregate that is declared, over the whole table unless scopes are named. -/
def StatisticConfig.toSpec (statistic : StatisticConfig) : Except ConfigFlaw AggregateSpec := do
  let rules ← statistic.rules.toRules
  pure {
    operation := statistic.operation
    column := statistic.column
    scopes := if statistic.scopes.isEmpty then [wholeTableScope] else statistic.scopes
    rules
    conditions := statistic.conditions.map fun sql => .fixed (some (.sql sql))
    joins := if statistic.joins.isEmpty then none else some (.fixed statistic.joins) }

/-- The definition of a statistic. -/
def StatisticConfig.toDefinition (statistic : StatisticConfig) :
    Except ConfigFlaw Definition := do
  let spec ← statistic.toSpec
  pure ⟨statistic.name, .aggregate spec,
    statistic.ttlSeconds.map fun seconds => .fixed (.ofSeconds seconds)⟩

namespace ModelConfig

/-- The connection with the scopes of a model declared on its table. -/
def defineScopes (model : ModelConfig) (connection : Sqlite.Connection) : Sqlite.Connection :=
  model.scopes.foldl (fun connection (scope, conditions) =>
    connection.defineScope model.table scope (conditions.map .sql)) connection

/-- The catalog with a model added. -/
def addTo (model : ModelConfig) (catalog : Catalog) : Except ConfigFlaw Catalog := do
  let rules ← model.rules.toRules
  let definitions ← model.statistics.mapM StatisticConfig.toDefinition
  pure (catalog.onModel ⟨model.name, model.table⟩ fun registry =>
    definitions.foldl Registry.define
      (rules.foldl (fun registry (key, rule) => registry.setRule key rule) registry))

end ModelConfig

namespace Config

/-- The connection with the scopes of all models declared. -/
def defineScopes (config : Config) (connection : Sqlite.Connection) : Sqlite.Connection :=
  config.models.foldl (fun connection model => model.defineScopes connection) connection

/-- The catalog of all models, in an environment. -/
def catalog (config : Config) (environment : Variables) : Except ConfigFlaw Catalog := do
  let rules ← config.rules.toRules
  config.models.foldlM (fun catalog model => model.addTo catalog)
    ((Catalog.empty (config.retry.policy environment)).setDefaultRules rules)

/-- The catalog of all models, and the session to evaluate their statistics in. -/
def build (config : Config) (environment : Variables) (now : Timestamp)
    (connection : Sqlite.Connection) :
    Except ConfigFlaw (Catalog × Session Sqlite.Connection) := do
  let catalog ← config.catalog environment
  pure (catalog, ⟨now, Cache.empty config.cacheCapacity, config.defineScopes connection⟩)

end Config

end Statbook
