import Statbook.Cache.Basic
import Statbook.Cache.Fingerprint
import Statbook.Retry.Policy
import Statbook.Registry.Definition

/-!
# Registries

A registry holds the statistics of one model and evaluates them. A cached value answers at
once; otherwise an aggregate asks the backend about a query that is put together anew, and a
calculation asks for its siblings. What was worked out is cached under the fingerprint of the
question. Calculations may ask for calculations up to a limited depth.
-/

namespace Statbook

/-- A model and the table that holds its rows. -/
structure ModelInfo where
  name : String
  table : String
  deriving DecidableEq

/-- The statistics of one model. -/
structure Registry where
  model : ModelInfo
  /-- The definitions in the order of their first definition, one for each name. -/
  definitions : List Definition
  /-- The rules that every model has. -/
  inheritedRules : FilterRules
  /-- The rules for all statistics of this model. -/
  modelRules : FilterRules
  retry : RetryPolicy

/-- All that an evaluation may change, and the time. -/
structure Session (σ : Type) where
  now : Timestamp
  cache : Cache
  backend : σ

namespace Session

/-- The session with a computation on the backend done. -/
def onBackend {σ α : Type} (run : Fallible σ α) : Fallible (Session σ) α := fun session =>
  let (result, backend) := run session.backend
  (result, { session with backend })

/-- The session with a computation on the cache done. -/
def onCache {σ α : Type} (run : Cache → α × Cache) : Fallible (Session σ) α :=
  fun session =>
  let (result, cache) := run session.cache
  (.ok result, { session with cache })

/-- The outcome of a computation as a value, which does not fail. -/
def outcome {σ α : Type} (run : Fallible (Session σ) α) :
    Fallible (Session σ) (Except StatError α) := fun session =>
  let (result, session) := run session
  (.ok result, session)

end Session

namespace Registry

variable {σ : Type}

/-- A registry without statistics. -/
def empty (model : ModelInfo) (inheritedRules : FilterRules) (retry : RetryPolicy) : Registry :=
  ⟨model, [], inheritedRules, [], retry⟩

/-- The names of the statistics in order. -/
def names (registry : Registry) : List String :=
  registry.definitions.map Definition.name

/-- The definition of a name. -/
def definition? (registry : Registry) (name : String) : Option Definition :=
  registry.definitions.find? fun definition => definition.name = name

/-- The definitions with one of them set; a name that is there keeps its place. -/
def setDefinition (definition : Definition) : List Definition → List Definition
  | [] => [definition]
  | head :: tail =>
    if head.name = definition.name then definition :: tail
    else head :: setDefinition definition tail

/-- The registry with a statistic defined, anew or for the first time. -/
def define (registry : Registry) (definition : Definition) : Registry :=
  { registry with definitions := setDefinition definition registry.definitions }

/-- The registry with a rule for all its statistics set. -/
def setRule (registry : Registry) (key : String) (rule : FilterRule) : Registry :=
  { registry with modelRules := registry.modelRules.set key rule }

/-- The rule for a filter key of a statistic: its own one before that of the model, and that
one before the one that every model has. -/
def rule? (registry : Registry) (spec : AggregateSpec) (key : String) : Option FilterRule :=
  (spec.rules.lookup key).or
    ((registry.modelRules.lookup key).or (registry.inheritedRules.lookup key))

/-- The constraints of the filters of a question, in the order of their keys. -/
def filterConstraints (registry : Registry) (spec : AggregateSpec) (filters : Filters)
    (now : Timestamp) : Except StatError (List Constraint) :=
  (filters.pairs.mapM fun pair =>
    FilterRule.resolve pair.1 pair.2 (registry.rule? spec pair.1) registry.model.table now).map
    (List.filterMap id)

/-- The conditions of a statistic that hold under some filters, in order. -/
def conditions (spec : AggregateSpec) (filters : Filters) : List Constraint :=
  spec.conditions.filterMap fun condition => condition.resolve filters

/-- The joins of a statistic under some filters. -/
def joins (spec : AggregateSpec) (filters : Filters) : List String :=
  match spec.joins with
  | some joins => joins.resolve filters
  | none => []

/-- The query of an aggregate: its scopes in order, then its conditions, its joins, and the
constraints of the filters. -/
def buildQuery (backend : Backend σ) (registry : Registry) (spec : AggregateSpec)
    (filters : Filters) (now : Timestamp) (state : σ) : Except StatError Query := do
  let query ← (spec.scopes.filter (· ≠ wholeTableScope)).foldlM (backend.applyScope state)
    (Query.all registry.model.table)
  let constraints ← registry.filterConstraints spec filters now
  pure (((query.constrain (conditions spec filters)).addJoins (joins spec filters)).constrain
    constraints)

/-- The query of an aggregate in a session. -/
def buildQueryIn (backend : Backend σ) (registry : Registry) (spec : AggregateSpec)
    (filters : Filters) : Fallible (Session σ) Query := fun session =>
  (registry.buildQuery backend spec filters session.now session.backend, session)

/-- The cached value of a question, if the statistic has a time to live. -/
def cachedValue (registry : Registry) (definition : Definition) (filters : Filters) :
    Fallible (Session σ) (Option StatValue) := fun session =>
  match definition.ttl with
  | none => (.ok none, session)
  | some _ =>
    let key := fingerprint registry.model.name definition.name filters
    Session.onCache (fun cache => cache.get session.now key) session

/-- Caches the value of a question, if the statistic has a time to live. -/
def cacheValue (registry : Registry) (definition : Definition) (filters : Filters)
    (value : StatValue) : Fallible (Session σ) Unit := fun session =>
  match definition.ttl with
  | none => (.ok (), session)
  | some ttl =>
    let key := fingerprint registry.model.name definition.name filters
    let ttl := ttl.resolve filters
    Session.onCache (fun cache => ((), cache.put session.now key value ttl)) session

/-- A way to evaluate a statistic by its name. -/
abbrev Evaluator (σ : Type) := String → Fallible (Session σ) (Option StatValue)

/-- The value of a sibling: an unknown one is null, and so is the asking statistic itself. -/
def siblingValue (evaluate : Evaluator σ) (caller name : String) :
    Fallible (Session σ) StatValue := do
  if name = caller then pure .null
  else
    let value ← evaluate name
    pure (value.getD .null)

/-- The values of all siblings in order. -/
def siblingValues (evaluate : Evaluator σ) (names : List String) (caller : String) :
    Fallible (Session σ) (List (String × StatValue)) :=
  (names.filter (· ≠ caller)).mapM fun name => do
    let value ← siblingValue evaluate caller name
    pure (name, value)

/-- The result of a calculation whose siblings are evaluated by `evaluate`. -/
def runDerivation (evaluate : Evaluator σ) (names : List String) (caller : String)
    (filters : Filters) : Derivation → Fallible (Session σ) StatValue
  | .done result => fun session => (result, session)
  | .sibling name next => do
    let result ← Session.outcome (siblingValue evaluate caller name)
    runDerivation evaluate names caller filters (next result)
  | .siblings next => do
    let result ← Session.outcome (siblingValues evaluate names caller)
    runDerivation evaluate names caller filters (next result)
  | .filters next => runDerivation evaluate names caller filters (next filters)

/-- Works out the value of a statistic without looking into the cache. Without a way to
evaluate siblings no calculation is started any more. -/
def workOut (backend : Backend σ) (registry : Registry) (filters : Filters)
    (deeper : Option (Evaluator σ)) (definition : Definition) :
    Fallible (Session σ) StatValue :=
  match definition.kind with
  | .aggregate spec => do
    let query ← registry.buildQueryIn backend spec filters
    Session.onBackend (backend.aggregate query spec.operation spec.column)
  | .calculated derivation =>
    match deeper with
    | none => throw (.derivationDepth definition.name)
    | some evaluate => runDerivation evaluate registry.names definition.name filters derivation

/-- Evaluates a statistic: from the cache, or else by working it out and caching the value. An
unknown name has no value. -/
def evaluateWith (backend : Backend σ) (registry : Registry) (filters : Filters)
    (deeper : Option (Evaluator σ)) : Evaluator σ := fun name =>
  match registry.definition? name with
  | none => pure none
  | some definition => do
    match ← registry.cachedValue definition filters with
    | some value => pure (some value)
    | none =>
      let value ← registry.workOut backend filters deeper definition
      registry.cacheValue definition filters value
      pure (some value)

/-- Evaluates a statistic below which calculations may be nested `levels` deep. -/
def evaluateAt (backend : Backend σ) (registry : Registry) (filters : Filters) :
    (levels : Nat) → Evaluator σ
  | 0 => registry.evaluateWith backend filters none
  | levels + 1 =>
    registry.evaluateWith backend filters (some (registry.evaluateAt backend filters levels))

/-- How deep calculations may be nested. -/
def maxDerivationDepth : Nat := 16

/-- Evaluates a statistic once. -/
def evaluate (backend : Backend σ) (registry : Registry) (name : String) (filters : Filters) :
    Fallible (Session σ) (Option StatValue) :=
  registry.evaluateAt backend filters maxDerivationDepth name

/-- Evaluates a statistic, with failures of the backend retried. -/
def get (backend : Backend σ) (registry : Registry) (name : String) (filters : Filters) :
    Fallible (Session σ) (Option StatValue) :=
  registry.retry.run fun _ => registry.evaluate backend name filters

/-- Drops the cached value of a question. -/
def invalidate (registry : Registry) (name : String) (filters : Filters) :
    Fallible (Session σ) Unit :=
  Session.onCache fun cache =>
    ((), cache.invalidate (fingerprint registry.model.name name filters))

/-- Evaluates a statistic anew. -/
def getFresh (backend : Backend σ) (registry : Registry) (name : String) (filters : Filters) :
    Fallible (Session σ) (Option StatValue) := do
  registry.invalidate name filters
  registry.get backend name filters

/-- The values of all statistics but one, in order. -/
def getAll (backend : Backend σ) (registry : Registry) (filters : Filters)
    (except : Option String) : Fallible (Session σ) (List (String × StatValue)) :=
  (registry.names.filter fun name => some name ≠ except).mapM fun name => do
    let value ← registry.get backend name filters
    pure (name, value.getD .null)

/-- The query of an aggregate statistic; a calculation has none. -/
def queryFor (backend : Backend σ) (registry : Registry) (name : String) (filters : Filters) :
    Fallible (Session σ) (Option Query) :=
  match registry.definition? name with
  | some ⟨_, .aggregate spec, _⟩ => do
    let query ← registry.buildQueryIn backend spec filters
    pure (some query)
  | _ => pure none

end Registry

end Statbook
