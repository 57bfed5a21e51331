import Mathlib.Data.List.Induction
import Statbook.Proofs.Registry.Catalog

/-!
# Which rule is in force

A catalog is declared step by step: the rules of every model, the models, their rules and their
statistics, in any order and over and over again. What it then holds can be read off the
declarations: of each thing the latest, but of the names of a model the first. So the rule that a
filter key of a statistic follows does not depend on whether a rule was declared before or after
the models and statistics that it is for.
-/

namespace Statbook

/-- A step in which a catalog is declared. -/
inductive Declaration where
  | setDefaultRules (rules : FilterRules)
  | model (info : ModelInfo)
  | setRule (info : ModelInfo) (key : String) (rule : FilterRule)
  | define (info : ModelInfo) (definition : Definition)

namespace Declaration

/-- The rules of every model, where the step sets them. -/
def defaultRules? : Declaration → Option FilterRules
  | setDefaultRules rules => some rules
  | model _ | setRule .. | define .. => none

/-- The model that the step names. -/
def info? : Declaration → Option ModelInfo
  | setDefaultRules _ => none
  | model info | setRule info _ _ | define info _ => some info

/-- The rule of a model for a filter key, where the step sets it. -/
def ruleFor? (model key : String) : Declaration → Option FilterRule
  | setRule info key' rule => if info.name = model ∧ key' = key then some rule else none
  | setDefaultRules _ | .model _ | define .. => none

/-- The statistic of a model under a name, where the step defines it. -/
def statistic? (model name : String) : Declaration → Option Definition
  | define info definition =>
    if info.name = model ∧ definition.name = name then some definition else none
  | setDefaultRules _ | .model _ | setRule .. => none

/-- What the last of the steps that say anything about it says. -/
def latest? {α : Type} (part : Declaration → Option α) (declarations : List Declaration) :
    Option α :=
  (declarations.filterMap part).getLast?

/-- A model as the first of the steps that name it gives it. -/
def named? (declarations : List Declaration) (model : String) : Option ModelInfo :=
  (declarations.filterMap info?).find? fun info => info.name = model

/-- The rules of every model that were set last. -/
def defaultRules (declarations : List Declaration) : FilterRules :=
  (latest? defaultRules? declarations).getD []

/-- The rule that a filter key of a statistic follows: its own one, or else the one that was set
last for all statistics of the model, or else that of every model. -/
def ruleInForce? (declarations : List Declaration) (model : String) (spec : AggregateSpec)
    (key : String) : Option FilterRule :=
  (spec.rules.lookup key).or
    ((latest? (ruleFor? model key) declarations).or ((defaultRules declarations).lookup key))

section Histories

variable {declarations : List Declaration} {declaration : Declaration}

theorem latest?_concat {α : Type} (part : Declaration → Option α)
    (declarations : List Declaration) (declaration : Declaration) :
    latest? part (declarations ++ [declaration]) =
      (part declaration).or (latest? part declarations) := by
  unfold latest?
  rw [List.filterMap_append]
  cases said : part declaration with
  | none => simp [said]
  | some x => simp [said]

theorem named?_concat (declarations : List Declaration) (declaration : Declaration)
    (model : String) : named? (declarations ++ [declaration]) model =
      (named? declarations model).or
        (declaration.info?.filter fun info => decide (info.name = model)) := by
  unfold named?
  rw [List.filterMap_append, List.find?_append]
  cases names : declaration.info? with
  | none => rw [List.filterMap_cons_none names]; rfl
  | some info =>
    rw [List.filterMap_cons_some names, List.filterMap_nil, List.find?_singleton, Option.filter]

theorem defaultRules_concat (declarations : List Declaration) (declaration : Declaration) :
    defaultRules (declarations ++ [declaration]) =
      declaration.defaultRules?.getD (defaultRules declarations) := by
  unfold defaultRules
  rw [latest?_concat]
  cases declaration.defaultRules? <;> rfl

theorem latest?_eq_none {α : Type} {part : Declaration → Option α}
    (silent : ∀ declaration ∈ declarations, part declaration = none) :
    latest? part declarations = none := by
  rw [latest?, List.filterMap_eq_nil_iff.mpr silent]
  rfl

/-- Nothing is declared about a model that no step names. -/
theorem info?_ne_of_named?_eq_none {model : String} (unnamed : named? declarations model = none)
    (member : declaration ∈ declarations) {info : ModelInfo} (names : declaration.info? = some info) :
    info.name ≠ model := by
  unfold named? at unnamed
  rw [List.find?_eq_none] at unnamed
  simpa using unnamed info (List.mem_filterMap.mpr ⟨declaration, member, names⟩)

theorem latest?_ruleFor?_of_unnamed {model : String} (unnamed : named? declarations model = none)
    (key : String) : latest? (ruleFor? model key) declarations = none := by
  refine latest?_eq_none fun declaration member => ?_
  have other (info : ModelInfo) (names : declaration.info? = some info) : info.name ≠ model :=
    info?_ne_of_named?_eq_none unnamed member names
  cases declaration with
  | setRule info key' rule => exact if_neg fun both => other info rfl both.1
  | setDefaultRules rules => rfl
  | model info => rfl
  | define info definition => rfl

theorem latest?_statistic?_of_unnamed {model : String}
    (unnamed : named? declarations model = none) (name : String) :
    latest? (statistic? model name) declarations = none := by
  refine latest?_eq_none fun declaration member => ?_
  have other (info : ModelInfo) (names : declaration.info? = some info) : info.name ≠ model :=
    info?_ne_of_named?_eq_none unnamed member names
  cases declaration with
  | define info definition => exact if_neg fun both => other info rfl both.1
  | setDefaultRules rules => rfl
  | model info => rfl
  | setRule info key' rule => rfl

end Histories

end Declaration

open Declaration

namespace FilterRules

theorem lookup_set_self (rules : FilterRules) (key : String) (rule : FilterRule) :
    (rules.set key rule).lookup key = some rule := by
  induction rules with
  | nil => simp [FilterRules.set]
  | cons pair rules ih =>
    unfold FilterRules.set
    split
    · simp
    · next different => rw [List.lookup_cons, beq_false_of_ne (Ne.symm different), ih]

theorem lookup_set_of_ne {key key' : String} (different : key' ≠ key) (rules : FilterRules)
    (rule : FilterRule) : (rules.set key' rule).lookup key = rules.lookup key := by
  induction rules with
  | nil => simp [FilterRules.set, Ne.symm different]
  | cons pair rules ih =>
    unfold FilterRules.set
    split
    · next same =>
      rw [List.lookup_cons, List.lookup_cons, same, beq_false_of_ne (Ne.symm different)]
    · rw [List.lookup_cons, List.lookup_cons, ih]

/-- What is set one after another: for each key the last rule, or else what was there. -/
theorem lookup_foldl_set (set rules : FilterRules) (key : String) :
    (set.foldl (fun rules (key, rule) => rules.set key rule) rules).lookup key =
      (set.reverse.lookup key).or (rules.lookup key) := by
  induction set generalizing rules with
  | nil => rfl
  | cons head tail ih =>
    rw [List.foldl_cons, ih, List.reverse_cons, List.lookup_append, Option.or_assoc]
    congr 1
    by_cases same : head.1 = key
    · rw [← same, lookup_set_self, List.lookup_cons_self, Option.some_or]
    · rw [lookup_set_of_ne same, List.lookup_cons, beq_false_of_ne (Ne.symm same)]
      rfl

end FilterRules

namespace Registry

variable {registry : Registry} {model : String} {declarations : List Declaration}

/-- The registry holds what was declared about its model. -/
structure Holds (registry : Registry) (model : String) (declarations : List Declaration) :
    Prop where
  inherited : registry.inheritedRules = defaultRules declarations
  rules : ∀ key, registry.modelRules.lookup key = latest? (ruleFor? model key) declarations
  statistics : ∀ name, registry.definition? name = latest? (statistic? model name) declarations

theorem holds_empty {info : ModelInfo} (unnamed : named? declarations model = none)
    (retry : RetryPolicy) :
    (Registry.empty info (defaultRules declarations) retry).Holds model declarations where
  inherited := rfl
  rules key := (latest?_ruleFor?_of_unnamed unnamed key).symm
  statistics name := (latest?_statistic?_of_unnamed unnamed name).symm

/-- A step that says nothing about the model or about every model leaves its registry as it is. -/
theorem Holds.concat_of_other (holds : registry.Holds model declarations)
    {declaration : Declaration} (silent : declaration.defaultRules? = none)
    (other : ∀ info, declaration.info? = some info → info.name ≠ model) :
    registry.Holds model (declarations ++ [declaration]) where
  inherited := by rw [defaultRules_concat, silent, holds.inherited]; rfl
  rules key := by
    rw [latest?_concat, holds.rules]
    cases declaration with
    | setRule info key' rule => rw [ruleFor?, if_neg fun both => other info rfl both.1]; rfl
    | setDefaultRules rules => rfl
    | model info => rfl
    | define info definition => rfl
  statistics name := by
    rw [latest?_concat, holds.statistics]
    cases declaration with
    | define info definition => rw [statistic?, if_neg fun both => other info rfl both.1]; rfl
    | setDefaultRules rules => rfl
    | model info => rfl
    | setRule info key' rule => rfl

theorem Holds.inherit (holds : registry.Holds model declarations) (rules : FilterRules) :
    Holds { registry with inheritedRules := rules } model
      (declarations ++ [.setDefaultRules rules]) where
  inherited := by rw [defaultRules_concat]; rfl
  rules key := by rw [latest?_concat, ← holds.rules]; rfl
  statistics name := by rw [latest?_concat, ← holds.statistics]; rfl

theorem Holds.name (holds : registry.Holds model declarations) (info : ModelInfo) :
    registry.Holds model (declarations ++ [.model info]) where
  inherited := by rw [defaultRules_concat, holds.inherited]; rfl
  rules key := by rw [latest?_concat, holds.rules]; rfl
  statistics name := by rw [latest?_concat, holds.statistics]; rfl

theorem Holds.setRule (holds : registry.Holds model declarations) {info : ModelInfo}
    (same : info.name = model) (key : String) (rule : FilterRule) :
    (registry.setRule key rule).Holds model (declarations ++ [.setRule info key rule]) where
  inherited := by rw [defaultRules_concat, ← holds.inherited]; rfl
  rules key' := by
    rw [latest?_concat, ← holds.rules, ruleFor?]
    by_cases this : key = key'
    · subst this
      rw [if_pos ⟨same, rfl⟩]
      exact FilterRules.lookup_set_self registry.modelRules key rule
    · rw [if_neg fun both => this both.2]
      exact FilterRules.lookup_set_of_ne this registry.modelRules rule
  statistics name := by rw [latest?_concat, ← holds.statistics]; rfl

theorem Holds.define (holds : registry.Holds model declarations) {info : ModelInfo}
    (same : info.name = model) (definition : Definition) :
    (registry.define definition).Holds model (declarations ++ [.define info definition]) where
  inherited := by rw [defaultRules_concat, ← holds.inherited]; rfl
  rules key := by rw [latest?_concat, ← holds.rules]; rfl
  statistics name := by
    rw [latest?_concat, ← holds.statistics, statistic?]
    by_cases this : definition.name = name
    · subst this
      rw [if_pos ⟨same, rfl⟩]
      exact definition?_define_self registry definition
    · rw [if_neg fun both => this both.2]
      exact definition?_define_of_ne this

/-- Under what was declared a statistic has the rule in force for each filter key. -/
theorem Holds.rule? (holds : registry.Holds model declarations) (spec : AggregateSpec)
    (key : String) : registry.rule? spec key = ruleInForce? declarations model spec key := by
  rw [Registry.rule?, holds.rules, holds.inherited, ruleInForce?]

end Registry

namespace Catalog

variable {catalog : Catalog} {model : String} {declarations : List Declaration}

/-- The catalog after a step. -/
def declare (catalog : Catalog) : Declaration → Catalog
  | .setDefaultRules rules => catalog.setDefaultRules rules
  | .model info => catalog.ensure info
  | .setRule info key rule => catalog.onModel info fun registry => registry.setRule key rule
  | .define info definition => catalog.onModel info fun registry => registry.define definition

/-- The catalog that steps declare. -/
def declared (retry : RetryPolicy) (declarations : List Declaration) : Catalog :=
  declarations.foldl declare (.empty retry)

theorem declared_concat (retry : RetryPolicy) (declarations : List Declaration)
    (declaration : Declaration) : declared retry (declarations ++ [declaration]) =
      (declared retry declarations).declare declaration :=
  List.foldl_append

/-- The change that a step makes to the registry of the model that it names. -/
def changeBy : Declaration → Registry → Registry
  | .setRule _ key rule, registry => registry.setRule key rule
  | .define _ definition, registry => registry.define definition
  | .setDefaultRules _, registry | .model _, registry => registry

theorem model_changeBy (declaration : Declaration) (registry : Registry) :
    (changeBy declaration registry).model = registry.model := by
  cases declaration <;> rfl

theorem onModel_id (catalog : Catalog) (info : ModelInfo) :
    (catalog.onModel info fun registry => registry) = catalog.ensure info := by
  simp [onModel, update]

/-- A step that names a model changes its registry, which it makes if there is none. -/
theorem declare_of_info? {declaration : Declaration} {info : ModelInfo}
    (names : declaration.info? = some info) (catalog : Catalog) :
    catalog.declare declaration = catalog.onModel info (changeBy declaration) := by
  cases declaration with
  | setDefaultRules rules => cases names
  | model info' =>
    obtain rfl := Option.some.inj names
    exact (onModel_id catalog info').symm
  | setRule info' key rule => obtain rfl := Option.some.inj names; rfl
  | define info' definition => obtain rfl := Option.some.inj names; rfl

theorem holds_changeBy {registry : Registry} (holds : registry.Holds model declarations)
    {declaration : Declaration} {info : ModelInfo} (names : declaration.info? = some info)
    (same : info.name = model) :
    (changeBy declaration registry).Holds model (declarations ++ [declaration]) := by
  cases declaration with
  | setDefaultRules rules => cases names
  | model info' => exact holds.name info'
  | setRule info' key rule =>
    obtain rfl := Option.some.inj names
    exact holds.setRule same key rule
  | define info' definition =>
    obtain rfl := Option.some.inj names
    exact holds.define same definition

/-- The catalog holds what was declared: its rules of every model, and for each model that was
named, and for no other one, a registry of it. -/
structure Holds (catalog : Catalog) (declarations : List Declaration) : Prop where
  defaultRules : catalog.defaultRules = Declaration.defaultRules declarations
  named : ∀ model, ( catalog.registry? model).map Registry.model = named? declarations model
  registries : ∀ model registry, catalog.registry? model = some registry →
    registry.Holds model declarations

theorem holds_empty (retry : RetryPolicy) : (Catalog.empty retry).Holds [] where
  defaultRules := rfl
  named _ := rfl
  registries _ _ found := by cases found

theorem Holds.setDefaultRules (holds : catalog.Holds declarations) (rules : FilterRules) :
    Holds (catalog.setDefaultRules rules) (declarations ++ [.setDefaultRules rules]) where
  defaultRules := by rw [defaultRules_concat]; rfl
  named model := by
    rw [registry?_setDefaultRules, named?_concat, ← holds.named, Option.map_map]
    cases catalog.registry? model <;> rfl
  registries model registry found := by
    rw [registry?_setDefaultRules, Option.map_eq_some_iff] at found
    obtain ⟨before, found, rfl⟩ := found
    exact (holds.registries model before found).inherit rules

/-- What a step changes is the registry of the model as it was before the step, or as it is first
made. -/
theorem Holds.exists_changed (holds : catalog.Holds declarations) (declaration : Declaration)
    (info : ModelInfo) : ∃ registry : Registry, registry.Holds info.name declarations ∧
      registry? (catalog.onModel info (changeBy declaration)) info.name =
        some (changeBy declaration registry) ∧
      some registry.model = (named? declarations info.name).or (some info) := by
  have kept := model_changeBy declaration
  cases found : catalog.registry? info.name with
  | some registry =>
    refine ⟨registry, holds.registries _ _ found, ?_, ?_⟩
    · rw [registry?_onModel found info kept, if_pos (name_of_found found)]
    · rw [← holds.named, found]
      rfl
  | none =>
    have unnamed : named? declarations info.name = none := by
      rw [← holds.named, found]
      rfl
    refine ⟨_, @Registry.holds_empty _ _ info unnamed catalog.retry, ?_, ?_⟩
    · rw [registry?_onModel_new found kept, holds.defaultRules]
    · rw [unnamed]
      rfl

/-- A step that names a model is held by the registry of the model, and changes no other one. -/
theorem Holds.onModel (holds : catalog.Holds declarations) {declaration : Declaration}
    {info : ModelInfo} (names : declaration.info? = some info) :
    Holds (catalog.onModel info (changeBy declaration)) (declarations ++ [declaration]) := by
  have kept := model_changeBy declaration
  have silent : declaration.defaultRules? = none := by cases declaration <;> first | rfl | cases names
  have defaults : (catalog.onModel info (changeBy declaration)).defaultRules =
      Declaration.defaultRules (declarations ++ [declaration]) := by
    rw [defaultRules_concat, silent, Option.getD_none, ← holds.defaultRules]
    unfold Catalog.onModel ensure
    cases catalog.registry? info.name <;> rfl
  have other {model : String} (different : info.name ≠ model) :
      registry? (catalog.onModel info (changeBy declaration)) model = catalog.registry? model :=
    registry?_onModel_of_ne different kept
  obtain ⟨changed, holds', found', first⟩ := holds.exists_changed declaration info
  refine ⟨defaults, fun model => ?_, fun model registry found => ?_⟩
  · rw [named?_concat, names]
    by_cases same : info.name = model
    · subst same
      rw [found', Option.map_some, kept, first, Option.filter, if_pos (decide_eq_true rfl)]
    · rw [other same, holds.named, Option.filter, if_neg (by simpa using same), Option.or_none]
  · by_cases same : info.name = model
    · subst same
      obtain rfl := Option.some.inj (found'.symm.trans found)
      exact holds_changeBy holds' names rfl
    · rw [other same] at found
      refine (holds.registries model registry found).concat_of_other silent fun info' names' => ?_
      obtain rfl := Option.some.inj (names.symm.trans names')
      exact same

theorem Holds.declare (holds : catalog.Holds declarations) (declaration : Declaration) :
    Holds (catalog.declare declaration) (declarations ++ [declaration]) := by
  cases names : declaration.info? with
  | some info =>
    rw [declare_of_info? names]
    exact holds.onModel names
  | none =>
    cases declaration with
    | setDefaultRules rules => exact holds.setDefaultRules rules
    | model info => cases names
    | setRule info key rule => cases names
    | define info definition => cases names

theorem holds_declared (retry : RetryPolicy) (declarations : List Declaration) :
    (declared retry declarations).Holds declarations := by
  induction declarations using List.reverseRecOn with
  | nil => exact holds_empty retry
  | append_singleton declarations declaration ih =>
    rw [declared_concat]
    exact ih.declare declaration

section Distinct

/-- The names of the models in the order of their registries. -/
def registered (catalog : Catalog) : List String :=
  catalog.registries.map fun registry => registry.model.name

theorem registered_setDefaultRules (catalog : Catalog) (rules : FilterRules) :
    registered (catalog.setDefaultRules rules) = catalog.registered := by
  simp [registered, setDefaultRules]

theorem registered_update (catalog : Catalog) (model : String) {change : Registry → Registry}
    (kept : ∀ registry, (change registry).model = registry.model) :
    registered (catalog.update model change) = catalog.registered := by
  unfold registered update
  rw [List.map_map]
  refine List.map_congr_left fun registry _ => ?_
  show ModelInfo.name (Registry.model (if _ then _ else _)) = _
  split
  · rw [kept]
  · rfl

theorem nodup_ensure (distinct : catalog.registered.Nodup) (info : ModelInfo) :
    (registered (catalog.ensure info)).Nodup := by
  unfold ensure
  split
  · exact distinct
  · next absent =>
    have new : info.name ∉ catalog.registered := by
      intro member
      obtain ⟨registry, member, same⟩ := List.mem_map.mp member
      exact absurd same (by simpa using List.find?_eq_none.mp absent registry member)
    show (List.map _ (catalog.registries ++ [_])).Nodup
    rw [List.map_append]
    exact List.nodup_append.mpr ⟨distinct, List.nodup_cons.mpr ⟨List.not_mem_nil, List.nodup_nil⟩, by
      rintro name member name' single rfl
      obtain rfl := List.mem_singleton.mp single
      exact new member⟩

theorem nodup_declared (retry : RetryPolicy) (declarations : List Declaration) :
    (declared retry declarations).registered.Nodup := by
  induction declarations using List.reverseRecOn with
  | nil => exact List.nodup_nil
  | append_singleton declarations declaration ih =>
    rw [declared_concat]
    cases names : declaration.info? with
    | some info =>
      rw [declare_of_info? names, onModel, registered_update _ _ (model_changeBy declaration)]
      exact nodup_ensure ih info
    | none =>
      cases declaration with
      | setDefaultRules rules =>
        show (registered (setDefaultRules _ rules)).Nodup
        rw [registered_setDefaultRules]
        exact ih
      | model info => cases names
      | setRule info key rule => cases names
      | define info definition => cases names

/-- A registry of a catalog with one for each model is the one found under its name. -/
theorem registry?_of_mem (distinct : catalog.registered.Nodup) {registry : Registry}
    (member : registry ∈ catalog.registries) :
    catalog.registry? registry.model.name = some registry :=
  find?_of_distinct distinct member

end Distinct

/-- Whatever was declared in whatever order, a model has a registry if it was named, with the
table that it was first given and the rules of every model that were set last. Its statistics are
those defined last, and each filter is read under the rule in force for its key. -/
theorem rules_in_force (retry : RetryPolicy) (declarations : List Declaration) :
    (∀ model, Catalog.registry? (declared retry declarations) model = none ↔
      named? declarations model = none) ∧
    ∀ registry ∈ (declared retry declarations).registries,
      Catalog.registry? (declared retry declarations) registry.model.name = some registry ∧
      named? declarations registry.model.name = some registry.model ∧
      registry.inheritedRules = Declaration.defaultRules declarations ∧
      (∀ name, registry.definition? name =
        latest? (statistic? registry.model.name name) declarations) ∧
      ∀ spec, (∀ key, registry.rule? spec key =
          ruleInForce? declarations registry.model.name spec key) ∧
        ∀ filters now, registry.filterConstraints spec filters now =
          (filters.pairs.mapM fun pair => FilterRule.resolve pair.1 pair.2
            (ruleInForce? declarations registry.model.name spec pair.1)
            registry.model.table now).map (List.filterMap id) := by
  have holds := holds_declared retry declarations
  refine ⟨fun model => by rw [← holds.named, Option.map_eq_none_iff], fun registry member => ?_⟩
  have found := registry?_of_mem (nodup_declared retry declarations) member
  have holds' := holds.registries _ _ found
  refine ⟨found, ?_, holds'.inherited, holds'.statistics, fun spec => ⟨holds'.rule? spec, ?_⟩⟩
  · rw [← holds.named, found]; rfl
  · intro filters now
    simp only [Registry.filterConstraints, holds'.rule?]

/-- A statistic of items with a rule of its own. -/
def stockTotal : Definition :=
  ⟨"total", .aggregate { AggregateSpec.over .count with rules := [("made", .day)] }, none⟩

/-- The rules of every model are set before and after the models, and a model is given another
table when it is named again. -/
def stockDeclarations : List Declaration :=
  [.setDefaultRules [("made", .equality)], .define ⟨"item", "items"⟩ stockTotal,
    .setRule ⟨"item", "stock"⟩ "team" .day, .model ⟨"user", "users"⟩,
    .setDefaultRules [("site", .equality), ("team", .equality)],
    .setRule ⟨"item", "items"⟩ "team" (.template "%t.team = ?")]

/-- What these steps declare about items. -/
def stockRegistry : Registry :=
  ⟨⟨"item", "items"⟩, [stockTotal], [("site", .equality), ("team", .equality)],
    [("team", .template "%t.team = ?")], .standard⟩

theorem stockRegistry_rules_in_force :
    stockRegistry ∈ (declared .standard stockDeclarations).registries ∧
      named? stockDeclarations "item" = some stockRegistry.model ∧
      stockRegistry.inheritedRules = [("site", .equality), ("team", .equality)] ∧
      ∀ spec, stockTotal.kind = .aggregate spec →
        stockRegistry.rule? spec "made" = some .day ∧
        stockRegistry.rule? spec "team" = some (.template "%t.team = ?") ∧
        stockRegistry.rule? spec "site" = some .equality ∧ stockRegistry.rule? spec "size" = none := by
  have member : stockRegistry ∈ (declared .standard stockDeclarations).registries :=
    List.mem_cons_self
  obtain ⟨-, named, inherited, -, rules⟩ :=
    (rules_in_force .standard stockDeclarations).2 stockRegistry member
  refine ⟨member, named, inherited, fun spec kind => ?_⟩
  obtain rfl := StatisticKind.aggregate.inj kind
  obtain ⟨rule, -⟩ := rules { AggregateSpec.over .count with rules := [("made", .day)] }
  exact ⟨rule "made", rule "team", rule "site", rule "size"⟩

end Catalog

end Statbook
