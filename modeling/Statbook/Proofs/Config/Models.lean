import Statbook.Proofs.Config.Declared
import Statbook.Proofs.Config.Soundness
import Statbook.Proofs.Registry.Precedence

/-!
# Models of a configuration

A sound configuration that is built gives each of its models a registry of its own, in the same
order, with the rules and the statistics that the model declares.
-/

namespace Statbook

open Sqlite

namespace StatisticConfig

variable {statistic : StatisticConfig}

/-- The aggregate that is declared has the scopes and the conditions of the declaration. -/
theorem toSpec_eq_ok {spec : AggregateSpec} (built : statistic.toSpec = .ok spec) :
    spec.scopes.filter (· ≠ wholeTableScope) = statistic.scopes.filter (· ≠ wholeTableScope) ∧
      ∀ filters, Registry.conditions spec filters = statistic.conditions.map .sql := by
  have specifies := toSpec_eq_ok_iff.mp built
  constructor
  · rw [specifies.scopes]
    split
    · next none => rw [none]; rfl
    · rfl
  · intro filters
    rw [Registry.conditions, specifies.conditions, List.filterMap_map]
    show List.filterMap (some ∘ Constraint.sql) statistic.conditions = _
    rw [List.filterMap_eq_map]

theorem toDefinition_eq_ok {definition : Definition}
    (defined : statistic.toDefinition = .ok definition) :
    definition.name = statistic.name ∧ ∃ spec, statistic.toSpec = .ok spec ∧
      definition.kind = .aggregate spec := by
  have declares := toDefinition_eq_ok_iff.mp defined
  obtain ⟨spec, kind, specifies⟩ := declares.kind
  exact ⟨declares.name, spec, toSpec_eq_ok_iff.mpr specifies, kind⟩

end StatisticConfig

namespace ModelConfig

/-- A registry has the table of a model and each of its statistics. -/
structure Registered (model : ModelConfig) (registry : Registry) : Prop where
  table : registry.model.table = model.table
  defined : ∀ statistic ∈ model.statistics, ∃ definition,
    statistic.toDefinition = .ok definition ∧
      registry.definition? statistic.name = some definition

/-- A registry is what a model declares, where every model has the rules `defaults` and `retry` is
how failures are retried: it has the statistics in their order, and of the rules for a key the last
one. -/
structure Declares (model : ModelConfig) (defaults : FilterRules) (retry : RetryPolicy)
    (registry : Registry) : Prop where
  info : registry.model = ⟨model.name, model.table⟩
  statistics : List.Forall₂ StatisticConfig.Declares model.statistics registry.definitions
  rules : ∃ rules, model.rules.Mean rules ∧
    ∀ key, registry.modelRules.lookup key = rules.reverse.lookup key
  inherited : registry.inheritedRules = defaults
  retry : registry.retry = retry

section Declares

variable {model : ModelConfig} {defaults : FilterRules} {retry : RetryPolicy} {registry : Registry}

/-- Statistics that are declared have the names they are declared with. -/
theorem names_of_declares {statistics : List StatisticConfig} {definitions : List Definition}
    (declares : List.Forall₂ StatisticConfig.Declares statistics definitions) :
    definitions.map Definition.name = statistics.map StatisticConfig.name :=
  map_eq_map_of_forall₂ declares fun _ _ declares => declares.name

theorem Declares.names_eq (declares : model.Declares defaults retry registry) :
    registry.names = model.statistics.map StatisticConfig.name :=
  names_of_declares declares.statistics

/-- Where no two statistics have the same name each is found under its own. -/
theorem Declares.exists_definition (declares : model.Declares defaults retry registry)
    (distinct : (model.statistics.map StatisticConfig.name).Nodup) {statistic : StatisticConfig}
    (member : statistic ∈ model.statistics) :
    ∃ definition, registry.definition? statistic.name = some definition ∧
      statistic.Declares definition := by
  obtain ⟨definition, there, declared⟩ := exists_of_forall₂ declares.statistics member
  rw [← declares.names_eq] at distinct
  rw [← declared.name]
  exact ⟨definition, find?_of_distinct distinct there, declared⟩

end Declares

variable {model : ModelConfig} {catalog catalog' : Catalog}

/-- What adding a model does to the registry of the model. -/
def declare (rules : FilterRules) (definitions : List Definition) (registry : Registry) :
    Registry :=
  definitions.foldl Registry.define
    (rules.foldl (fun registry (key, rule) => registry.setRule key rule) registry)

theorem addTo_eq_ok_iff : model.addTo catalog = .ok catalog' ↔ ∃ rules definitions,
    model.rules.Mean rules ∧ List.Forall₂ StatisticConfig.Declares model.statistics definitions ∧
      catalog' = catalog.onModel ⟨model.name, model.table⟩ (declare rules definitions) := by
  unfold addTo
  simp only [bind_eq_ok_iff, DeclaredRules.toRules_eq_ok_iff, mapM_eq_ok_iff,
    StatisticConfig.toDefinition_eq_ok_iff]
  constructor
  · rintro ⟨rules, mean, definitions, declares, added⟩
    exact ⟨rules, definitions, mean, declares, (Except.ok.inj added).symm⟩
  · rintro ⟨rules, definitions, mean, declares, rfl⟩
    exact ⟨rules, mean, definitions, declares, rfl⟩

/-- The registry of a model that is declared for the first time. -/
theorem declares_declare {rules : FilterRules} {definitions : List Definition}
    (mean : model.rules.Mean rules)
    (declares : List.Forall₂ StatisticConfig.Declares model.statistics definitions)
    (distinct : (model.statistics.map StatisticConfig.name).Nodup) (defaults : FilterRules)
    (retry : RetryPolicy) : model.Declares defaults retry
      (declare rules definitions (.empty ⟨model.name, model.table⟩ defaults retry)) := by
  rw [← names_of_declares declares] at distinct
  rw [declare, Registry.foldl_setRule,
    Registry.foldl_define_of_new distinct fun definition _ => List.not_mem_nil]
  refine ⟨rfl, declares, ⟨rules, mean, fun key => ?_⟩, rfl, rfl⟩
  exact (FilterRules.lookup_foldl_set rules [] key).trans Option.or_none

/-- A model that is added for the first time gets its registry behind those that are there. -/
theorem addTo_new (absent : catalog.registry? model.name = none)
    (distinct : (model.statistics.map StatisticConfig.name).Nodup)
    (added : model.addTo catalog = .ok catalog') :
    ∃ registry, model.Declares catalog.defaultRules catalog.retry registry ∧
      catalog' = { catalog with registries := catalog.registries ++ [registry] } := by
  obtain ⟨rules, definitions, mean, declares, rfl⟩ := addTo_eq_ok_iff.mp added
  exact ⟨_, declares_declare mean declares distinct catalog.defaultRules catalog.retry,
    Catalog.onModel_new absent _⟩

end ModelConfig

namespace Config

/-- A catalog is what a configuration declares in an environment: it has a registry for each model
in their order, and no other ones. -/
structure Declares (config : Config) (environment : Variables) (catalog : Catalog) : Prop where
  defaults : config.rules.Mean catalog.defaultRules
  retry : catalog.retry = config.retry.policy environment
  models : List.Forall₂ (ModelConfig.Declares · catalog.defaultRules catalog.retry ·)
    config.models catalog.registries

variable {config : Config} {environment : Variables} {catalog catalog' : Catalog}

/-- Models that are added for the first time get their registries in order behind those that are
there. -/
theorem foldlM_addTo_new {models : List ModelConfig}
    (distinct : (models.map ModelConfig.name).Nodup)
    (statistics : ∀ model ∈ models, (model.statistics.map StatisticConfig.name).Nodup)
    (absent : ∀ model ∈ models, catalog.registry? model.name = none)
    (added : models.foldlM (fun catalog model => model.addTo catalog) catalog = .ok catalog') :
    ∃ registries, List.Forall₂ (ModelConfig.Declares · catalog.defaultRules catalog.retry ·)
        models registries ∧
      catalog' = { catalog with registries := catalog.registries ++ registries } := by
  induction models generalizing catalog with
  | nil =>
    obtain rfl := Except.ok.inj added
    exact ⟨[], .nil, by rw [List.append_nil]⟩
  | cons head tail ih =>
    obtain ⟨fresh, distinct⟩ := List.nodup_cons.mp distinct
    rw [List.forall_mem_cons] at statistics absent
    rw [List.foldlM_cons] at added
    obtain ⟨between, first, others⟩ := bind_eq_ok_iff.mp added
    obtain ⟨registry, declares, rfl⟩ := ModelConfig.addTo_new absent.1 statistics.1 first
    have unknown : ∀ model ∈ tail, Catalog.registry?
        { catalog with registries := catalog.registries ++ [registry] } model.name = none := by
      intro model member
      have different : registry.model.name ≠ model.name := by
        rw [declares.info]
        intro (same : head.name = model.name)
        rw [same] at fresh
        exact fresh (List.mem_map_of_mem member)
      show List.find? _ (catalog.registries ++ [registry]) = none
      rw [List.find?_append, List.find?_singleton, if_neg (by simpa using different),
        Option.or_none]
      exact absent.2 model member
    obtain ⟨registries, declared, rfl⟩ := ih distinct statistics.2 unknown others
    exact ⟨registry :: registries, .cons declares declared, by rw [List.append_assoc]; rfl⟩

/-- A sound configuration that makes a catalog makes the one that it declares. -/
theorem declares_of_catalog (sound : SoundModels config.models)
    (made : config.catalog environment = .ok catalog) : config.Declares environment catalog := by
  obtain ⟨rules, mean, added⟩ := bind_eq_ok_iff.mp made
  obtain ⟨registries, declares, rfl⟩ :=
    foldlM_addTo_new sound.distinct sound.statistics (fun model _ => rfl) added
  exact ⟨DeclaredRules.toRules_eq_ok_iff.mp mean, rfl, declares⟩

namespace Declares

theorem names_eq (declares : config.Declares environment catalog) :
    catalog.registered = config.models.map ModelConfig.name := by
  refine map_eq_map_of_forall₂ declares.models fun model registry declares => ?_
  rw [declares.info]

/-- Where no two models have the same name each has its registry under its own. -/
theorem exists_registry (declares : config.Declares environment catalog)
    (distinct : (config.models.map ModelConfig.name).Nodup) {model : ModelConfig}
    (member : model ∈ config.models) :
    ∃ registry, catalog.registry? model.name = some registry ∧
      model.Declares catalog.defaultRules catalog.retry registry := by
  obtain ⟨registry, there, declared⟩ := exists_of_forall₂ declares.models member
  rw [← declares.names_eq] at distinct
  have found := Catalog.registry?_of_mem distinct there
  rw [declared.info] at found
  exact ⟨registry, found, declared⟩

end Declares

theorem build_eq_ok_iff {now : Timestamp} {connection : Connection} {session : Session Connection} :
    config.build environment now connection = .ok (catalog, session) ↔
      config.catalog environment = .ok catalog ∧
        session = ⟨now, Cache.empty config.cacheCapacity, config.defineScopes connection⟩ := by
  rw [build, bind_eq_ok_iff]
  constructor
  · rintro ⟨made, built, same⟩
    obtain ⟨rfl, rfl⟩ := Prod.mk.inj (Except.ok.inj same)
    exact ⟨built, rfl⟩
  · rintro ⟨made, rfl⟩
    exact ⟨catalog, made, rfl⟩

/-- What is built from a sound configuration: a registry for each model, and a connection with
the scopes of all. -/
theorem build_eq_ok {now : Timestamp} {connection : Connection} {session : Session Connection}
    (sound : config.flaw? = none)
    (built : config.build environment now connection = .ok (catalog, session)) :
    session.backend = config.defineScopes connection ∧ ∀ model ∈ config.models,
      ∃ registry, catalog.registry? model.name = some registry ∧ model.Registered registry := by
  have sound := (flaw?_eq_none_iff config).mp sound
  obtain ⟨made, rfl⟩ := build_eq_ok_iff.mp built
  refine ⟨rfl, fun model member => ?_⟩
  obtain ⟨registry, found, declares⟩ :=
    (declares_of_catalog sound made).exists_registry sound.distinct member
  refine ⟨registry, found, congrArg ModelInfo.table declares.info, fun statistic offered => ?_⟩
  obtain ⟨definition, there, declared⟩ :=
    declares.exists_definition (sound.statistics model member) offered
  exact ⟨definition, StatisticConfig.toDefinition_eq_ok_iff.mpr declared, there⟩

end Config

end Statbook
