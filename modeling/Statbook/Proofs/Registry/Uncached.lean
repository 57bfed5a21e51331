import Statbook.Proofs.Registry.Worth

/-!
# Evaluation without a cache

Without times to live an evaluation gives what a statistic is worth, from every state.
-/

namespace Statbook

open Fallible

namespace Registry

variable {σ : Type} {backend : Backend σ} {registry : Registry} {now : Timestamp} {state : σ}
  {filters : Filters}

/-- The registry with all times to live removed. -/
def uncached (registry : Registry) : Registry :=
  { registry with
    definitions := registry.definitions.map fun definition => { definition with ttl := none } }

theorem names_uncached : registry.uncached.names = registry.names := by
  simp [names, uncached, Function.comp_def]

theorem definition?_uncached (name : String) : registry.uncached.definition? name =
    (registry.definition? name).map fun definition => { definition with ttl := none } := by
  rw [definition?, uncached, List.find?_map]
  rfl

/-- Times to live do not change what statistics are worth. -/
theorem worthAt_uncached (levels : Nat) (name : String) :
    registry.uncached.worthAt backend now state filters levels name =
      registry.worthAt backend now state filters levels name := by
  have step (deeper : Option (String → Except StatError (Option StatValue))) (name : String) :
      registry.uncached.nameWorth backend now state filters deeper name =
        registry.nameWorth backend now state filters deeper name := by
    unfold nameWorth
    rw [definition?_uncached]
    cases registry.definition? name with
    | none => rfl
    | some definition =>
      simp only [Option.map_some, kindWorth, names_uncached]
      rfl
  induction levels generalizing name with
  | zero => exact step none name
  | succ levels ih => rw [worthAt, worthAt, step, funext ih]

end Registry

/-- From every state with `P` the computation gives this result. -/
def Yields {σ α : Type} (P : σ → Prop) (run : Fallible σ α) (result : Except StatError α) : Prop :=
  Ensures P run fun given => given = result

namespace Yields

variable {σ α β : Type} {P : σ → Prop}

theorem pure (value : α) : Yields P (Pure.pure value) (.ok value) :=
  Ensures.pure rfl

theorem bind {run : Fallible σ α} {result : Except StatError α} {next : α → Fallible σ β}
    {results : α → Except StatError β} (first : Yields P run result)
    (second : ∀ value, Yields P (next value) (results value)) :
    Yields P (run >>= next) (result.bind results) := by
  refine Ensures.bind first (fun value same => ?_) fun error same => by rw [← same]; rfl
  rw [← same]
  exact second value

theorem mapM {run : α → Fallible σ β} {results : α → Except StatError β}
    (each : ∀ x, Yields P (run x) (results x)) (xs : List α) :
    Yields P (xs.mapM run) (xs.mapM results) := by
  induction xs with
  | nil => exact pure []
  | cons x xs ih =>
    rw [List.mapM_cons, List.mapM_cons]
    exact bind (each x) fun y => bind ih fun ys => pure (y :: ys)

theorem outcome {P : Session σ → Prop} {run : Fallible (Session σ) α}
    {result : Except StatError α} (yields : Yields P run result) :
    Yields P (Session.outcome run) (.ok result) :=
  fun session kept => ⟨(yields session kept).1, congrArg _ (yields session kept).2⟩

end Yields

namespace Registry

variable {σ : Type} {backend : Backend σ} {registry : Registry} {now : Timestamp} {state : σ}
  {filters : Filters} {P : Session σ → Prop}

theorem buildQuery_steady (steady : backend.Steady) (spec : AggregateSpec) (state' : σ) :
    registry.buildQuery backend spec filters now state' =
      registry.buildQuery backend spec filters now state := by
  unfold buildQuery
  rw [steady.applyScope state' state]

/-- A steady backend answers with what the aggregate is worth. -/
theorem yields_askBackend (steady : backend.Steady) (clock : ∀ session, P session → session.now = now)
    (kept : ∀ session backend, P session → P { session with backend }) (spec : AggregateSpec) :
    Yields P (registry.askBackend backend filters spec)
      (registry.aggregateWorth backend now state filters spec) := by
  intro session holds
  rw [askBackend_apply, clock session holds, aggregateWorth,
    buildQuery_steady steady spec session.backend]
  cases registry.buildQuery backend spec filters now state with
  | error error => exact ⟨holds, rfl⟩
  | ok query => exact ⟨kept _ _ holds, steady.aggregate query _ _ session.backend state⟩

theorem yields_runDerivation {evaluate : Evaluator σ}
    {worth : String → Except StatError (Option StatValue)}
    (each : ∀ name, Yields P (evaluate name) (worth name)) (names : List String) (caller : String)
    (derivation : Derivation) :
    Yields P (runDerivation evaluate names caller filters derivation)
      (derivationWorth worth names caller filters derivation) := by
  have sibling (name : String) :
      Yields P (siblingValue evaluate caller name) (siblingWorth worth caller name) := by
    unfold siblingValue siblingWorth
    split
    · exact .pure _
    · exact (each name).bind fun value => .pure _
  have siblings :
      Yields P (siblingValues evaluate names caller) (siblingsWorth worth names caller) :=
    .mapM (fun name => (sibling name).bind fun value => .pure _) _
  induction derivation with
  | done result => exact fun session kept => ⟨kept, rfl⟩
  | sibling name next ih =>
    exact (sibling name).outcome.bind fun result => ih result
  | siblings next ih => exact siblings.outcome.bind fun result => ih result
  | filters next ih => exact ih filters

theorem yields_workOut (steady : backend.Steady)
    (clock : ∀ session, P session → session.now = now)
    (kept : ∀ session backend, P session → P { session with backend })
    {deeper : Option (Evaluator σ)} {deeper' : Option (String → Except StatError (Option StatValue))}
    (below : Option.Rel (fun evaluate worth => ∀ name, Yields P (evaluate name) (worth name))
      deeper deeper') (definition : Definition) :
    Yields P (registry.workOut backend filters deeper definition)
      (registry.kindWorth backend now state filters deeper' definition) := by
  unfold workOut kindWorth
  cases definition.kind with
  | aggregate spec => exact yields_askBackend steady clock kept spec
  | calculated derivation =>
    cases below with
    | none => exact .throw rfl
    | some each => exact yields_runDerivation each _ _ derivation

/-- A statistic gives what it is worth without times to live, if its siblings do. -/
theorem yields_evaluateWith (steady : backend.Steady)
    (untimed : ∀ definition ∈ registry.definitions, definition.ttl = none)
    {deeper : Option (Evaluator σ)} {deeper' : Option (String → Except StatError (Option StatValue))}
    (below : Option.Rel (fun evaluate worth => ∀ name,
      Yields (fun session => session.now = now) (evaluate name) (worth name)) deeper deeper')
    (name : String) :
    Yields (fun session => session.now = now) (registry.evaluateWith backend filters deeper name)
      (registry.nameWorth backend now state filters deeper' name) := by
  unfold evaluateWith nameWorth
  cases found : registry.definition? name with
  | none => exact .pure none
  | some definition =>
    have none := untimed definition (definition_of_found found).1
    have worked : Yields (fun session => session.now = now)
        (registry.workOut backend filters deeper definition)
        (registry.kindWorth backend now state filters deeper' definition) :=
      yields_workOut steady (fun _ clock => clock) (fun _ _ clock => clock) below definition
    have looked : Yields (fun session : Session σ => session.now = now)
        (registry.cachedValue definition filters) (.ok .none) := by
      intro session clock
      unfold cachedValue
      rw [none]
      exact ⟨clock, rfl⟩
    have stored (value : StatValue) : Yields (fun session : Session σ => session.now = now)
        (registry.cacheValue definition filters value) (.ok ()) := by
      intro session clock
      unfold cacheValue
      rw [none]
      exact ⟨clock, rfl⟩
    refine Ensures.bind looked (fun cached same => ?_) fun error same => by cases same
    obtain rfl := Except.ok.inj same
    exact worked.bind fun value => (stored value).bind fun _ => .pure _

/-- Without times to live an evaluation gives what the statistic is worth. -/
theorem yields_evaluateAt (steady : backend.Steady)
    (untimed : ∀ definition ∈ registry.definitions, definition.ttl = none)
    (levels : Nat) (name : String) :
    Yields (fun session => session.now = now) (registry.evaluateAt backend filters levels name)
      (registry.worthAt backend now state filters levels name) := by
  induction levels generalizing name with
  | zero => exact yields_evaluateWith steady untimed .none name
  | succ levels ih => exact yields_evaluateWith steady untimed (.some ih) name

end Registry

end Statbook
