import Statbook.Json.Value
import Statbook.Config.Basic

/-!
# Configurations as JSON

A configuration with all its settings, under the names that they have in a document. What was
left out and has no default is null.
-/

namespace Statbook

/-- A declared rule as JSON. -/
def DeclaredRule.toJson : DeclaredRule → Json
  | .brief pattern => .text pattern
  | .detailed kind field column pattern =>
    .object [("rule", .text kind.name), ("field", .optional .text field),
      ("on", .optional .text column), ("pattern", .optional .text pattern)]

/-- Declared rules as JSON. -/
def DeclaredRules.toJson (rules : DeclaredRules) : Json :=
  .object (rules.map fun (key, rule) => (key, rule.toJson))

/-- Settings for retrying as JSON. -/
def RetrySettings.toJson (settings : RetrySettings) : Json :=
  .object [("max_attempts", .optional (fun n : UInt32 => .integer n.toNat) settings.maxAttempts),
    ("base_ms", .optional (fun n : UInt64 => .integer n.toNat) settings.baseMillis),
    ("max_ms", .optional (fun n : UInt64 => .integer n.toNat) settings.maxMillis),
    ("retryable", .optional (.list fun kind => .text kind.name) settings.retryable)]

/-- A declared statistic as JSON. -/
def StatisticConfig.toJson (statistic : StatisticConfig) : Json :=
  .object [("name", .text statistic.name), ("operation", .text statistic.operation.name),
    ("column", .text statistic.column), ("scopes", .list .text statistic.scopes),
    ("filters", statistic.rules.toJson), ("conditions", .list .text statistic.conditions),
    ("joins", .list .text statistic.joins),
    ("cache_for_secs", .optional (fun n : UInt64 => .integer n.toNat) statistic.ttlSeconds)]

/-- A declared model as JSON. -/
def ModelConfig.toJson (model : ModelConfig) : Json :=
  .object [("name", .text model.name), ("table", .text model.table),
    ("scopes", .object (model.scopes.map fun (name, conditions) =>
      (name, .list .text conditions))),
    ("filters", model.rules.toJson), ("statistics", .list StatisticConfig.toJson model.statistics)]

/-- A configuration as JSON. -/
def Config.toJson (config : Config) : Json :=
  .object [("cache", .object [("capacity", .integer config.cacheCapacity)]),
    ("retry", config.retry.toJson),
    ("defaults", .object [("filters", config.rules.toJson)]),
    ("models", .list ModelConfig.toJson config.models)]

end Statbook
