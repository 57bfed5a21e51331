import Statbook.Proofs.Backend.Fallible
import Statbook.Registry.Basic

/-!
# What an evaluation keeps

An evaluation looks into the cache, asks the backend and fills the cache. What these three keep
is kept by the evaluation of every statistic, however deep its calculations are nested.
-/

namespace Statbook

open Fallible

variable {σ : Type} {P : Session σ → Prop} {backend : Backend σ} {registry : Registry}
  {filters : Filters}

namespace Session

theorem outcome_apply {α : Type} (run : Fallible (Session σ) α) (session : Session σ) :
    outcome run session = (.ok (run session).1, (run session).2) :=
  rfl

theorem keeps_outcome {α : Type} {run : Fallible (Session σ) α} (keeps : Keeps P run) :
    Keeps P (outcome run) :=
  fun session kept => ⟨(keeps session kept).1, trivial⟩

end Session

namespace Registry

/-- Asks the backend for the value of an aggregate. -/
def askBackend (backend : Backend σ) (registry : Registry) (filters : Filters)
    (spec : AggregateSpec) : Fallible (Session σ) StatValue := do
  let query ← registry.buildQueryIn backend spec filters
  Session.onBackend (backend.aggregate query spec.operation spec.column)

/-- Works out an aggregate that is not in the cache. -/
def askAnew (backend : Backend σ) (registry : Registry) (filters : Filters)
    (definition : Definition) (spec : AggregateSpec) :
    Fallible (Session σ) (Option StatValue) := do
  let value ← registry.askBackend backend filters spec
  registry.cacheValue definition filters value
  pure (some value)

theorem askBackend_apply (spec : AggregateSpec) (session : Session σ) :
    registry.askBackend backend filters spec session =
      match registry.buildQuery backend spec filters session.now session.backend with
      | .ok query => Session.onBackend (backend.aggregate query spec.operation spec.column) session
      | .error error => (.error error, session) := by
  rw [askBackend, bind_apply]
  unfold buildQueryIn
  cases registry.buildQuery backend spec filters session.now session.backend <;> rfl

theorem definition_of_found {name : String} {definition : Definition}
    (found : registry.definition? name = some definition) :
    definition ∈ registry.definitions ∧ definition.name = name := by
  have named := List.find?_some found
  exact ⟨List.mem_of_find?_eq_some found, by simpa using named⟩

/-- A calculation keeps what the evaluation of its siblings keeps. -/
theorem keeps_runDerivation {evaluate : Evaluator σ} (each : ∀ name, Keeps P (evaluate name))
    (names : List String) (caller : String) (derivation : Derivation) :
    Keeps P (runDerivation evaluate names caller filters derivation) := by
  have sibling (name : String) : Keeps P (siblingValue evaluate caller name) := by
    unfold siblingValue
    split
    · exact .pure _
    · exact (each name).bind fun value => .pure _
  have siblings : Keeps P (siblingValues evaluate names caller) :=
    .mapM (fun name => (sibling name).bind fun value => .pure _) _
  induction derivation with
  | done result => exact fun session kept => ⟨kept, trivial⟩
  | sibling name next ih =>
    exact (Session.keeps_outcome (sibling name)).bind fun result => ih result
  | siblings next ih => exact (Session.keeps_outcome siblings).bind fun result => ih result
  | filters next ih => exact ih filters

/-- A statistic keeps what looking it up and working it out keep. -/
theorem keeps_evaluateWith
    (looks : ∀ definition, Keeps P (registry.cachedValue definition filters))
    (asks : ∀ name definition spec, registry.definition? name = some definition →
      definition.kind = .aggregate spec →
      Keeps P (registry.askAnew backend filters definition spec))
    (stores : ∀ name definition derivation value, registry.definition? name = some definition →
      definition.kind = .calculated derivation →
      Keeps P (registry.cacheValue definition filters value))
    {deeper : Option (Evaluator σ)}
    (below : ∀ evaluate, deeper = some evaluate → ∀ name, Keeps P (evaluate name))
    (name : String) : Keeps P (registry.evaluateWith backend filters deeper name) := by
  unfold evaluateWith
  cases found : registry.definition? name with
  | none => exact .pure none
  | some definition =>
    refine (looks definition).bind fun cached => ?_
    cases cached with
    | some value => exact .pure _
    | none =>
      cases kind : definition.kind with
      | aggregate spec =>
        unfold workOut
        simp only [kind]
        exact asks name definition spec found kind
      | calculated derivation =>
        have worked : Keeps P (registry.workOut backend filters deeper definition) := by
          unfold workOut
          simp only [kind]
          cases deeper with
          | none => exact .throw _
          | some evaluate => exact keeps_runDerivation (below evaluate rfl) _ _ derivation
        exact worked.bind fun value =>
          (stores name definition derivation value found kind).bind fun _ => .pure _

/-- What looking up and working out keep is kept by every evaluation. -/
theorem keeps_evaluateAt
    (looks : ∀ definition, Keeps P (registry.cachedValue definition filters))
    (asks : ∀ name definition spec, registry.definition? name = some definition →
      definition.kind = .aggregate spec →
      Keeps P (registry.askAnew backend filters definition spec))
    (stores : ∀ name definition derivation value, registry.definition? name = some definition →
      definition.kind = .calculated derivation →
      Keeps P (registry.cacheValue definition filters value))
    (levels : Nat) (name : String) :
    Keeps P (registry.evaluateAt backend filters levels name) := by
  induction levels generalizing name with
  | zero => exact keeps_evaluateWith looks asks stores (fun evaluate absent => by cases absent) name
  | succ levels ih =>
    refine keeps_evaluateWith looks asks stores (fun evaluate present => ?_) name
    obtain rfl := Option.some.inj present
    exact ih

end Registry

end Statbook
