import Statbook.Registry.Basic

/-!
# Catalogs

A catalog holds one registry for each model and the rules that every model has.
-/

namespace Statbook

/-- The registries of all models. -/
structure Catalog where
  defaultRules : FilterRules
  /-- The registries in the order of their first use, one for each model. -/
  registries : List Registry
  retry : RetryPolicy

namespace Catalog

/-- A catalog without models. -/
def empty (retry : RetryPolicy) : Catalog :=
  ⟨[], [], retry⟩

/-- The registry of a model. -/
def registry? (catalog : Catalog) (model : String) : Option Registry :=
  catalog.registries.find? fun registry => registry.model.name = model

/-- The catalog with the rules that every model has replaced, also for the models it has. -/
def setDefaultRules (catalog : Catalog) (rules : FilterRules) : Catalog :=
  { catalog with
    defaultRules := rules
    registries := catalog.registries.map fun registry => { registry with inheritedRules := rules } }

/-- The catalog with a registry for a model; one that is there stays as it is. -/
def ensure (catalog : Catalog) (model : ModelInfo) : Catalog :=
  match catalog.registry? model.name with
  | some _ => catalog
  | none => { catalog with
      registries := catalog.registries ++ [.empty model catalog.defaultRules catalog.retry] }

/-- The catalog with the registry of a model changed. -/
def update (catalog : Catalog) (model : String) (change : Registry → Registry) : Catalog :=
  { catalog with
    registries := catalog.registries.map fun registry =>
      if registry.model.name = model then change registry else registry }

/-- The catalog with the registry of a model, made on first use, changed. -/
def onModel (catalog : Catalog) (model : ModelInfo) (change : Registry → Registry) : Catalog :=
  (catalog.ensure model).update model.name change

/-- The names of the models, sorted. -/
def modelNames (catalog : Catalog) : List String :=
  (catalog.registries.map fun registry => registry.model.name).mergeSort

end Catalog

end Statbook
