import Statbook.Proofs.Config.Models

/-!
# Which configurations are accepted

A configuration is refused unless its models are sound, and then because of the first flaw that is
met. A sound one can be built unless one of its rules lacks something, and its catalog is what it
declares, neither more nor less.
-/

namespace Statbook

open Sqlite

namespace ModelConfig

/-- The rules of a model and of its statistics. -/
def declaredRules (model : ModelConfig) : List DeclaredRule :=
  model.rules.map Prod.snd ++
    model.statistics.flatMap fun statistic => statistic.rules.map Prod.snd

/-- Whether a model can be added depends on its rules only, and not on what is there. -/
theorem exists_addTo_iff (model : ModelConfig) (catalog : Catalog) :
    (∃ catalog', model.addTo catalog = .ok catalog') ↔
      ∀ rule ∈ model.declaredRules, ¬rule.Lacking := by
  have rules : (∃ rules, model.rules.Mean rules) ↔ ∀ rule ∈ model.rules, ¬rule.2.Lacking :=
    DeclaredRules.exists_mean_iff
  have statistics : (∃ definitions,
      List.Forall₂ StatisticConfig.Declares model.statistics definitions) ↔
        ∀ statistic ∈ model.statistics, ∀ rule ∈ statistic.rules, ¬rule.2.Lacking := by
    simp only [exists_forall₂_iff, StatisticConfig.exists_declares_iff]
  unfold declaredRules
  simp only [addTo_eq_ok_iff, List.forall_mem_append, List.forall_mem_map, List.forall_mem_flatMap,
    ← rules, ← statistics]
  constructor
  · rintro ⟨-, rules, definitions, mean, declares, -⟩
    exact ⟨⟨rules, mean⟩, definitions, declares⟩
  · rintro ⟨⟨rules, mean⟩, definitions, declares⟩
    exact ⟨_, rules, definitions, mean, declares, rfl⟩

end ModelConfig

namespace Config

/-- All rules of a configuration: those of every model, and those of each model and statistic. -/
def declaredRules (config : Config) : List DeclaredRule :=
  config.rules.map Prod.snd ++ config.models.flatMap ModelConfig.declaredRules

/-- A configuration makes a catalog unless one of its rules lacks something. -/
theorem exists_catalog_iff (config : Config) (environment : Variables) :
    (∃ catalog, config.catalog environment = .ok catalog) ↔
      ∀ rule ∈ config.declaredRules, ¬rule.Lacking := by
  unfold catalog declaredRules
  simp only [bind_eq_ok_iff, DeclaredRules.toRules_eq_ok_iff, List.forall_mem_append,
    List.forall_mem_map, List.forall_mem_flatMap, ← DeclaredRules.exists_mean_iff]
  have models (catalog : Catalog) :
      (∃ last, config.models.foldlM (fun catalog model => model.addTo catalog) catalog = .ok last) ↔
        ∀ model ∈ config.models, ∀ rule ∈ model.declaredRules, ¬rule.Lacking :=
    exists_foldlM_eq_ok_iff ModelConfig.exists_addTo_iff catalog
  constructor
  · rintro ⟨catalog, rules, mean, added⟩
    exact ⟨⟨rules, mean⟩, (models _).mp ⟨catalog, added⟩⟩
  · rintro ⟨⟨rules, mean⟩, complete⟩
    obtain ⟨catalog, added⟩ := (models _).mpr complete
    exact ⟨catalog, rules, mean, added⟩

/-- A configuration has no flaw exactly if its models are sound, and otherwise the first one that is
met. A sound one is built exactly if no rule that it declares lacks something. Its catalog then has
a registry for each of its models and for no other name, with the statistics of the model in order,
and each of these is found under its name as it is declared. -/
theorem accepted_as_declared (config : Config) (environment : Variables) (now : Timestamp)
    (connection : Connection) :
    (config.flaw? = none ↔ SoundModels config.models) ∧
    (∀ flaw, config.flaw? = some flaw ↔ config.FirstFlaw flaw) ∧
    (SoundModels config.models →
      ((∃ built, config.build environment now connection = .ok built) ↔
        ∀ rule ∈ config.declaredRules, ¬rule.Lacking) ∧
      ∀ catalog session, config.build environment now connection = .ok (catalog, session) →
        config.Declares environment catalog ∧
        (∀ name, ( catalog.registry? name).isSome ↔ name ∈ config.models.map ModelConfig.name) ∧
        ∀ model ∈ config.models, ∃ registry, catalog.registry? model.name = some registry ∧
          model.Declares catalog.defaultRules catalog.retry registry ∧
          registry.names = model.statistics.map StatisticConfig.name ∧
          ∀ statistic ∈ model.statistics, ∃ definition,
            registry.definition? statistic.name = some definition ∧
              statistic.Declares definition) := by
  refine ⟨flaw?_eq_none_iff config, flaw?_eq_some_iff config, fun sound => ⟨?_, ?_⟩⟩
  · rw [← exists_catalog_iff config environment]
    constructor
    · rintro ⟨⟨catalog, session⟩, built⟩
      exact ⟨catalog, (build_eq_ok_iff.mp built).1⟩
    · rintro ⟨catalog, made⟩
      exact ⟨_, build_eq_ok_iff.mpr ⟨made, rfl⟩⟩
  · intro catalog session built
    have declares := declares_of_catalog sound (build_eq_ok_iff.mp built).1
    refine ⟨declares, fun name => ?_, fun model member => ?_⟩
    · unfold Catalog.registry?
      rw [List.find?_isSome, ← declares.names_eq, Catalog.registered, List.mem_map]
      simp only [decide_eq_true_eq]
    · obtain ⟨registry, found, declared⟩ := declares.exists_registry sound.distinct member
      exact ⟨registry, found, declared, declared.names_eq, fun statistic offered =>
        declared.exists_definition (sound.statistics model member) offered⟩

/-- A model of channels with two statistics. -/
def channels : ModelConfig where
  name := "Channels"
  table := "channels"
  scopes := [("high", ["channel > 10"])]
  rules := [("channel", .detailed .equality none none none),
    ("on", .detailed .day none (some "created_at") none),
    ("period", .detailed .window (some "created_at") none none)]
  statistics := [⟨"Count", .count, "id", [], [], [], [], none⟩,
    ⟨"Sum", .sum, "amount", ["high"], [("user", .brief "user_id = ?")], ["amount > 0"], [],
      some 60⟩]

/-- One model, and a rule for every one. -/
def channelsOnly : Config :=
  { Config.empty with rules := [("user_id", .brief "user_id = ?")], models := [channels] }

theorem channelsOnly_built_as_declared :
    SoundModels channelsOnly.models ∧
    ∃ catalog session,
      channelsOnly.build [] .last (.ofDatabase (.ok .empty)) = .ok (catalog, session) ∧
      ∃ registry, catalog.registry? "Channels" = some registry ∧
        registry.names = ["Count", "Sum"] ∧
        ∃ definition, registry.definition? "Sum" = some definition ∧
          ∃ spec, definition.kind = .aggregate spec ∧ spec.scopes = ["high"] := by
  obtain ⟨sound, -, accepted⟩ :=
    accepted_as_declared channelsOnly [] .last (.ofDatabase (.ok .empty))
  have sound : SoundModels channelsOnly.models := sound.mp (by decide)
  have complete : ∀ rule ∈ channelsOnly.declaredRules, ¬rule.Lacking := by
    intro rule member lacking
    cases lacking <;>
      simp [declaredRules, channelsOnly, channels, ModelConfig.declaredRules] at member
  obtain ⟨builds, declares⟩ := accepted sound
  obtain ⟨⟨catalog, session⟩, built⟩ := builds.mpr complete
  obtain ⟨-, -, models⟩ := declares catalog session built
  obtain ⟨registry, found, -, names, statistics⟩ := models channels (by simp [channelsOnly])
  obtain ⟨definition, there, declared⟩ := statistics _ (List.mem_cons_of_mem _ List.mem_cons_self)
  obtain ⟨spec, kind, specifies⟩ := declared.kind
  exact ⟨sound, catalog, session, built, registry, found, names, definition, there, spec, kind,
    specifies.scopes⟩

end Config

end Statbook
