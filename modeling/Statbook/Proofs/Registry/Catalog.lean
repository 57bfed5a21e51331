import Statbook.Registry.Catalog

/-!
# What a catalog holds

A definition is found under its name, and a registry under that of its model, whatever is
declared under other names.
-/

namespace Statbook

/-- Of things with names of their own each is found under its name. -/
theorem find?_of_distinct {α : Type} {name : α → String} {xs : List α}
    (distinct : (xs.map name).Nodup) {x : α} (member : x ∈ xs) :
    xs.find? (fun y => name y = name x) = some x := by
  obtain ⟨before, after, rfl⟩ := List.append_of_mem member
  rw [List.map_append, List.map_cons] at distinct
  rw [List.find?_append, List.find?_eq_none.mpr fun y earlier => ?_]
  · simp
  · have apart := (List.nodup_append.mp distinct).2.2 (name y) (List.mem_map_of_mem earlier) (name x)
      List.mem_cons_self
    simpa using apart

namespace Registry

variable {registry : Registry} {name : String} {definition : Definition}

theorem find?_setDefinition_of_ne (different : definition.name ≠ name)
    (definitions : List Definition) :
    (setDefinition definition definitions).find? (·.name = name) =
      definitions.find? (·.name = name) := by
  induction definitions with
  | nil => simp [setDefinition, different]
  | cons head tail ih =>
    unfold setDefinition
    split
    · next same => simp [same, different]
    · rw [List.find?_cons, List.find?_cons, ih]

theorem find?_setDefinition_self (definition : Definition) (definitions : List Definition) :
    (setDefinition definition definitions).find? (·.name = definition.name) = some definition := by
  induction definitions with
  | nil => simp [setDefinition]
  | cons head tail ih =>
    unfold setDefinition
    split
    · simp
    · next different =>
      rw [List.find?_cons_of_neg (by simpa using different)]
      exact ih

theorem definition?_define_of_ne (different : definition.name ≠ name) :
    (registry.define definition).definition? name = registry.definition? name :=
  find?_setDefinition_of_ne different registry.definitions

theorem definition?_define_self (registry : Registry) (definition : Definition) :
    (registry.define definition).definition? definition.name = some definition :=
  find?_setDefinition_self definition registry.definitions

theorem definition?_foldl_define_of_not_mem {definitions : List Definition}
    (absent : name ∉ definitions.map Definition.name) :
    (definitions.foldl define registry).definition? name = registry.definition? name := by
  induction definitions generalizing registry with
  | nil => rfl
  | cons head tail ih =>
    rw [List.map_cons, List.mem_cons, not_or] at absent
    rw [List.foldl_cons, ih absent.2, definition?_define_of_ne fun same => absent.1 same.symm]

/-- Of definitions with names of their own each is found. -/
theorem definition?_foldl_define {definitions : List Definition}
    (distinct : (definitions.map Definition.name).Nodup) (member : definition ∈ definitions) :
    (definitions.foldl define registry).definition? definition.name = some definition := by
  obtain ⟨before, after, rfl⟩ := List.append_of_mem member
  have absent : definition.name ∉ after.map Definition.name := by
    rw [List.map_append, List.map_cons] at distinct
    exact (List.nodup_cons.mp (List.nodup_append.mp distinct).2.1).1
  rw [List.foldl_append, List.foldl_cons, definition?_foldl_define_of_not_mem absent,
    definition?_define_self]

theorem setDefinition_of_new {definitions : List Definition}
    (new : definition.name ∉ definitions.map Definition.name) :
    setDefinition definition definitions = definitions ++ [definition] := by
  induction definitions with
  | nil => rfl
  | cons head tail ih =>
    rw [List.map_cons, List.mem_cons, not_or] at new
    rw [setDefinition, if_neg (Ne.symm new.1), ih new.2, List.cons_append]

/-- Statistics with names of their own that are new to a registry stand behind those it has. -/
theorem foldl_define_of_new {definitions : List Definition}
    (distinct : (definitions.map Definition.name).Nodup)
    (new : ∀ definition ∈ definitions, definition.name ∉ registry.names) :
    definitions.foldl define registry =
      { registry with definitions := registry.definitions ++ definitions } := by
  induction definitions generalizing registry with
  | nil => rw [List.foldl_nil, List.append_nil]
  | cons head tail ih =>
    rw [List.map_cons, List.nodup_cons] at distinct
    obtain ⟨first, others⟩ := List.forall_mem_cons.mp new
    have added : registry.define head =
        { registry with definitions := registry.definitions ++ [head] } := by
      rw [define, setDefinition_of_new first]
    rw [List.foldl_cons, added, ih distinct.2, List.append_assoc]
    · rfl
    · intro definition member old
      rw [names, List.map_append, List.mem_append] at old
      rcases old with old | same
      · exact others definition member old
      · exact distinct.1 (List.mem_singleton.mp same ▸ List.mem_map_of_mem member)

theorem foldl_setRule (rules : FilterRules) (registry : Registry) :
    rules.foldl (fun registry (key, rule) => registry.setRule key rule) registry =
      { registry with
        modelRules :=
          rules.foldl (fun rules (key, rule) => rules.set key rule) registry.modelRules } := by
  induction rules generalizing registry with
  | nil => rfl
  | cons head tail ih => exact ih _

end Registry

namespace Catalog

variable {catalog : Catalog} {model : String} {registry : Registry}

theorem name_of_found (found : catalog.registry? model = some registry) :
    registry.model.name = model := by
  simpa using List.find?_some found

/-- A model has a registry after it was ensured, and no other one gets or loses any. -/
theorem registry?_ensure (catalog : Catalog) (info : ModelInfo) (model : String) :
    Catalog.registry? (catalog.ensure info) model =
      match catalog.registry? model with
      | some registry => some registry
      | none =>
        if info.name = model then some (.empty info catalog.defaultRules catalog.retry)
        else none := by
  unfold ensure
  cases present : catalog.registry? info.name with
  | some other =>
    by_cases same : info.name = model
    · subst same
      rw [present]
    · rw [if_neg same]
      cases catalog.registry? model <;> rfl
  | none =>
    show List.find? _ (catalog.registries ++ [_]) = _
    rw [List.find?_append]
    show Option.or ( catalog.registry? model) _ = _
    cases catalog.registry? model with
    | some registry => rfl
    | none => by_cases same : info.name = model <;> simp [same, Registry.empty]

/-- A change of one registry is all that an update is. -/
theorem registry?_update (catalog : Catalog) (changed model : String) {change : Registry → Registry}
    (kept : ∀ registry, (change registry).model = registry.model) :
    Catalog.registry? (catalog.update changed change) model =
      match catalog.registry? model with
      | some registry =>
        some (if registry.model.name = changed then change registry else registry)
      | none => none := by
  have names (registry : Registry) :
      (if registry.model.name = changed then change registry else registry).model =
        registry.model := by
    split
    · exact kept registry
    · rfl
  show List.find? _ (catalog.registries.map _) = _
  rw [List.find?_map]
  simp only [Function.comp_def, names]
  show Option.map _ ( catalog.registry? model) = _
  cases catalog.registry? model <;> rfl

theorem registry?_setDefaultRules (catalog : Catalog) (rules : FilterRules) (model : String) :
    registry? (catalog.setDefaultRules rules) model =
      ( catalog.registry? model).map fun registry => { registry with inheritedRules := rules } :=
  List.find?_map ..

theorem registry?_onModel (found : catalog.registry? model = some registry) (info : ModelInfo)
    {change : Registry → Registry} (kept : ∀ registry, (change registry).model = registry.model) :
    Catalog.registry? (catalog.onModel info change) model =
      some (if registry.model.name = info.name then change registry else registry) := by
  rw [onModel, registry?_update _ _ _ kept, registry?_ensure, found]

theorem registry?_onModel_of_ne {info : ModelInfo} (different : info.name ≠ model)
    {change : Registry → Registry} (kept : ∀ registry, (change registry).model = registry.model) :
    Catalog.registry? (catalog.onModel info change) model = catalog.registry? model := by
  rw [onModel, registry?_update _ _ _ kept, registry?_ensure, if_neg different]
  cases found : catalog.registry? model with
  | none => rfl
  | some registry =>
    have other : registry.model.name ≠ info.name := by
      rw [name_of_found found]
      exact different.symm
    simp only [if_neg other]

/-- A model without registry gets one when it is first changed. -/
theorem registry?_onModel_new {info : ModelInfo} (absent : catalog.registry? info.name = none)
    {change : Registry → Registry} (kept : ∀ registry, (change registry).model = registry.model) :
    Catalog.registry? (catalog.onModel info change) info.name =
      some (change (.empty info catalog.defaultRules catalog.retry)) := by
  rw [onModel, registry?_update _ _ _ kept, registry?_ensure, absent, if_pos rfl]
  simp only [Registry.empty, if_true]

/-- A model without registry gets one behind those that are there. -/
theorem onModel_new {info : ModelInfo} (absent : catalog.registry? info.name = none)
    (change : Registry → Registry) :
    catalog.onModel info change =
      { catalog with
        registries :=
          catalog.registries ++ [change (.empty info catalog.defaultRules catalog.retry)] } := by
  have others : (catalog.registries.map fun registry =>
      if registry.model.name = info.name then change registry else registry) =
        catalog.registries := by
    refine (List.map_congr_left fun registry member => ?_).trans (List.map_id _)
    exact if_neg (by simpa using List.find?_eq_none.mp absent registry member)
  rw [onModel, ensure, absent]
  simp [update, others, Registry.empty]

end Catalog

end Statbook
