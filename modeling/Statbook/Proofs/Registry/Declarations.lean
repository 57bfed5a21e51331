import Statbook.Proofs.Registry.Catalog
import Statbook.Proofs.Registry.Exchanges

/-!
# Catalogs in use

Statistics and rules are declared while others are asked for. A declaration changes no session
and a request no catalog; the statistic of a model stays the same until it or one of its rules is
replaced.
-/

namespace Statbook

open Fallible

/-- What may be done to a catalog and to the clock. -/
inductive CatalogAction where
  | define (model : ModelInfo) (definition : Definition)
  | setRule (model : ModelInfo) (key : String) (rule : FilterRule)
  | setDefaultRules (rules : FilterRules)
  | serve (model : String) (request : Request)
  | setClock (now : Timestamp)

/-- Whether the action replaces a statistic of a model, or a rule that it may have. -/
def CatalogAction.Replaces (model name : String) : CatalogAction → Prop
  | define info definition => info.name = model ∧ definition.name = name
  | setRule info _ _ => info.name = model
  | setDefaultRules _ => True
  | serve .. | setClock _ => False

/-- A catalog and the session in which it is asked. -/
structure LiveCatalog (σ : Type) where
  catalog : Catalog
  session : Session σ

namespace LiveCatalog

variable {σ : Type}

/-- A catalog without models, and an empty cache. -/
def empty (retry : RetryPolicy) (capacity : Nat) (now : Timestamp) (state : σ) : LiveCatalog σ :=
  ⟨.empty retry, now, .empty capacity, state⟩

/-- What a request to a model is answered with; a model without registry answers nothing. -/
def answer? (backend : Backend σ) (live : LiveCatalog σ) (model : String) (request : Request) :
    Option (Except StatError Answer) :=
  match live.catalog.registry? model with
  | some registry => some (registry.serve backend request live.session).1
  | none => none

/-- The catalog and the session after an action. -/
def perform (backend : Backend σ) (live : LiveCatalog σ) : CatalogAction → LiveCatalog σ
  | .define model definition =>
    { live with catalog := live.catalog.onModel model fun registry => registry.define definition }
  | .setRule model key rule =>
    { live with catalog := live.catalog.onModel model fun registry => registry.setRule key rule }
  | .setDefaultRules rules => { live with catalog := live.catalog.setDefaultRules rules }
  | .serve model request =>
    match live.catalog.registry? model with
    | some registry => { live with session := (registry.serve backend request live.session).2 }
    | none => live
  | .setClock now => { live with session := { live.session with now } }

/-- The catalog and the session after actions. -/
def run (backend : Backend σ) (start : LiveCatalog σ) (actions : List CatalogAction) :
    LiveCatalog σ :=
  actions.foldl (perform backend) start

/-- The catalog with what a view shows of the state of the backend. -/
def seen {τ : Type} (view : τ → σ) (live : LiveCatalog τ) : LiveCatalog σ :=
  ⟨live.catalog, live.session.seen view⟩

variable {backend : Backend σ}

theorem run_append (start : LiveCatalog σ) (early late : List CatalogAction) :
    run backend start (early ++ late) = run backend (run backend start early) late :=
  List.foldl_append

section Seen

variable {τ : Type} {full : Backend τ} {view : τ → σ}

theorem answer?_seen (shows : full.Shows view backend) (live : LiveCatalog τ) (model : String)
    (request : Request) :
    (live.seen view).answer? backend model request = live.answer? full model request := by
  simp only [answer?, seen]
  cases live.catalog.registry? model with
  | none => rfl
  | some registry => simp only [Registry.mirrors_serve shows request live.session]

theorem perform_seen (shows : full.Shows view backend) (live : LiveCatalog τ)
    (action : CatalogAction) :
    (live.seen view).perform backend action = (live.perform full action).seen view := by
  cases action with
  | define model definition => rfl
  | setRule model key rule => rfl
  | setDefaultRules rules => rfl
  | serve model request =>
    simp only [perform, seen]
    cases live.catalog.registry? model with
    | none => rfl
    | some registry =>
      simp only [Registry.mirrors_serve shows request live.session]
  | setClock now => rfl

/-- A backend that shows another one changes nothing about a run. -/
theorem run_seen (shows : full.Shows view backend) (start : LiveCatalog τ)
    (actions : List CatalogAction) :
    run backend (start.seen view) actions = (run full start actions).seen view := by
  induction actions generalizing start with
  | nil => rfl
  | cons action actions ih =>
    show run backend ((start.seen view).perform backend action) actions =
      (run full (start.perform full action) actions).seen view
    rw [perform_seen shows, ih]

end Seen

end LiveCatalog

namespace Registry

variable {registry registry' : Registry} {name : String}

/-- What an action makes of a registry, which is meant by the name of its model. -/
def afterAction (registry : Registry) : CatalogAction → Registry
  | .define info definition =>
    if registry.model.name = info.name then registry.define definition else registry
  | .setRule info key rule =>
    if registry.model.name = info.name then registry.setRule key rule else registry
  | .setDefaultRules rules => { registry with inheritedRules := rules }
  | .serve .. | .setClock _ => registry

/-- Two registries of one model have the same statistic of a name, with the same rules. -/
structure Agrees (registry registry' : Registry) (name : String) : Prop where
  model : registry'.model = registry.model
  definition : registry'.definition? name = registry.definition? name
  modelRules : registry'.modelRules = registry.modelRules
  inheritedRules : registry'.inheritedRules = registry.inheritedRules

theorem Agrees.refl (registry : Registry) (name : String) : registry.Agrees registry name :=
  ⟨rfl, rfl, rfl, rfl⟩

theorem Agrees.trans {registry'' : Registry} (first : registry.Agrees registry' name)
    (second : registry'.Agrees registry'' name) : registry.Agrees registry'' name where
  model := second.model.trans first.model
  definition := second.definition.trans first.definition
  modelRules := second.modelRules.trans first.modelRules
  inheritedRules := second.inheritedRules.trans first.inheritedRules

/-- Registries that agree build the same queries. -/
theorem Agrees.buildQuery {σ : Type} (agrees : registry.Agrees registry' name)
    (backend : Backend σ) (spec : AggregateSpec) (filters : Filters) (now : Timestamp)
    (state : σ) : registry'.buildQuery backend spec filters now state =
      registry.buildQuery backend spec filters now state := by
  unfold Registry.buildQuery filterConstraints rule?
  rw [agrees.model, agrees.modelRules, agrees.inheritedRules]

theorem agrees_define {definition : Definition} (different : definition.name ≠ name) :
    registry.Agrees (registry.define definition) name :=
  ⟨rfl, definition?_define_of_ne different, rfl, rfl⟩

end Registry

namespace LiveCatalog

variable {σ : Type} {live : LiveCatalog σ} {model name : String}
  {registry : Registry}

/-- The registry of a model after an action is told by the registry before it. -/
theorem registry?_perform (backend : Backend σ) (found : live.catalog.registry? model = some registry)
    (action : CatalogAction) :
    Catalog.registry? (live.perform backend action).catalog model =
      some (registry.afterAction action) := by
  cases action with
  | define info definition => exact Catalog.registry?_onModel found info fun _ => rfl
  | setRule info key rule => exact Catalog.registry?_onModel found info fun _ => rfl
  | setDefaultRules rules =>
    show Catalog.registry? (live.catalog.setDefaultRules rules) model = _
    rw [Catalog.registry?_setDefaultRules, found]
    rfl
  | serve asked request =>
    simp only [perform]
    cases live.catalog.registry? asked <;> exact found
  | setClock now => exact found

/-- An action that does not replace a statistic leaves it and its rules as they are. -/
theorem agrees_perform (backend : Backend σ) (found : live.catalog.registry? model = some registry)
    {action : CatalogAction} (stays : ¬action.Replaces model name) :
    ∃ registry', Catalog.registry? (live.perform backend action).catalog model = some registry' ∧
      registry.Agrees registry' name := by
  have named := Catalog.name_of_found found
  refine ⟨_, registry?_perform backend found action, ?_⟩
  cases action with
  | define info definition =>
    rw [Registry.afterAction]
    split
    · next same =>
      have different : definition.name ≠ name :=
        fun defined => stays ⟨same.symm.trans named, defined⟩
      exact Registry.agrees_define different
    · exact .refl registry name
  | setRule info key rule =>
    rw [Registry.afterAction, if_neg fun same => stays (same.symm.trans named)]
    exact .refl registry name
  | setDefaultRules rules => exact absurd trivial stays
  | serve asked request => exact .refl registry name
  | setClock now => exact .refl registry name

/-- A statistic that is not replaced is the same at the end of a run. -/
theorem agrees_run (backend : Backend σ) (found : live.catalog.registry? model = some registry)
    {actions : List CatalogAction} (stays : ∀ action ∈ actions, ¬action.Replaces model name) :
    ∃ registry', Catalog.registry? (run backend live actions).catalog model = some registry' ∧
      registry.Agrees registry' name := by
  induction actions generalizing live registry with
  | nil => exact ⟨registry, found, .refl registry name⟩
  | cons action actions ih =>
    obtain ⟨registry', found', agrees⟩ :=
      agrees_perform backend found (stays action List.mem_cons_self)
    obtain ⟨registry'', found'', agrees'⟩ :=
      ih found' fun action member => stays action (List.mem_cons_of_mem _ member)
    exact ⟨registry'', found'', agrees.trans agrees'⟩

end LiveCatalog

end Statbook
