import Statbook.Proofs.Registry.Evaluation
import Statbook.Proofs.Registry.Plan

/-!
# What the backend is asked

A backend that keeps a record of the aggregates it is asked for shows what an evaluation asks:
nothing but the queries that the definitions outline, and nothing at all where a cached value
answers or a scope or filter is refused.
-/

namespace Statbook

open Fallible

variable {σ : Type}

/-- One question to a backend. -/
structure Asked where
  query : Query
  operation : Operation
  column : String

/-- The backend with a record of the aggregates that it was asked for. -/
def Backend.recorded (backend : Backend σ) : Backend (σ × List Asked) where
  applyScope state := backend.applyScope state.1
  aggregate query operation column state :=
    let (result, inner) := backend.aggregate query operation column state.1
    (result, inner, state.2 ++ [⟨query, operation, column⟩])
  fetch query state :=
    let (result, inner) := backend.fetch query state.1
    (result, inner, state.2)

/-- The session without the record. -/
def Session.forget (session : Session (σ × List Asked)) : Session σ :=
  ⟨session.now, session.cache, session.backend.1⟩

/-- The session with what a view shows of the state of the backend. -/
def Session.seen {τ : Type} (view : τ → σ) (session : Session τ) : Session σ :=
  ⟨session.now, session.cache, view session.backend⟩

/-- The full backend answers as the plain one does on the part of its state that the view shows. -/
structure Backend.Shows {τ : Type} (full : Backend τ) (view : τ → σ) (plain : Backend σ) :
    Prop where
  scopes : ∀ state, full.applyScope state = plain.applyScope (view state)
  answers : ∀ query operation column,
    Mirrors view (full.aggregate query operation column) (plain.aggregate query operation column)

theorem Backend.shows_recorded (backend : Backend σ) : backend.recorded.Shows Prod.fst backend where
  scopes _ := rfl
  answers _ _ _ _ := rfl

theorem Session.mirrors_outcome {τ α : Type} {view : τ → σ} {full : Fallible (Session τ) α}
    {plain : Fallible (Session σ) α} (mirrors : Mirrors (seen view) full plain) :
    Mirrors (seen view) (outcome full) (outcome plain) := by
  intro session
  rw [outcome_apply, outcome_apply, mirrors session]

namespace Registry

variable {backend : Backend σ} {registry : Registry} {filters : Filters}

/-- The query that is built is recorded, unless there is none. -/
theorem askBackend_recorded (spec : AggregateSpec) (session : Session (σ × List Asked)) :
    registry.askBackend backend.recorded filters spec session =
      match registry.buildQuery backend spec filters session.now session.backend.1 with
      | .error error => (.error error, session)
      | .ok query =>
        let (result, inner) :=
          backend.aggregate query spec.operation spec.column session.backend.1
        (result, { session with
          backend := (inner, session.backend.2 ++ [⟨query, spec.operation, spec.column⟩]) }) := by
  rw [askBackend_apply]
  have same : registry.buildQuery backend.recorded spec filters session.now session.backend =
      registry.buildQuery backend spec filters session.now session.backend.1 := rfl
  rw [same]
  cases registry.buildQuery backend spec filters session.now session.backend.1 <;> rfl

section Mirrors

variable {τ : Type} {full : Backend τ} {view : τ → σ}

theorem mirrors_askBackend (shows : full.Shows view backend) (spec : AggregateSpec) :
    Mirrors (Session.seen view) (registry.askBackend full filters spec)
      (registry.askBackend backend filters spec) := by
  intro session
  have same : registry.buildQuery full spec filters session.now session.backend =
      registry.buildQuery backend spec filters session.now (view session.backend) := by
    unfold buildQuery
    rw [shows.scopes]
  rw [askBackend_apply, askBackend_apply, same]
  simp only [Session.seen]
  cases registry.buildQuery backend spec filters session.now (view session.backend) with
  | error error => rfl
  | ok query =>
    simp only [Session.onBackend, shows.answers query _ _ session.backend]
    rfl

theorem mirrors_runDerivation {evaluate : Evaluator τ} {evaluate' : Evaluator σ}
    (each : ∀ name, Mirrors (Session.seen view) (evaluate name) (evaluate' name))
    (names : List String) (caller : String) (derivation : Derivation) :
    Mirrors (Session.seen view) (runDerivation evaluate names caller filters derivation)
      (runDerivation evaluate' names caller filters derivation) := by
  have sibling (name : String) : Mirrors (Session.seen view) (siblingValue evaluate caller name)
      (siblingValue evaluate' caller name) := by
    unfold siblingValue
    split
    · exact .pure _
    · exact (each name).bind fun value => .pure _
  have siblings : Mirrors (Session.seen view) (siblingValues evaluate names caller)
      (siblingValues evaluate' names caller) :=
    .mapM (fun name => (sibling name).bind fun value => .pure _) _
  induction derivation with
  | done result => exact fun session => rfl
  | sibling name next ih =>
    exact (Session.mirrors_outcome (sibling name)).bind fun result => ih result
  | siblings next ih => exact (Session.mirrors_outcome siblings).bind fun result => ih result
  | filters next ih => exact ih filters

theorem mirrors_cachedValue (definition : Definition) :
    Mirrors (Session.seen view) (registry.cachedValue definition filters)
      (registry.cachedValue definition filters) := by
  intro session
  unfold cachedValue
  cases definition.ttl <;> rfl

theorem mirrors_cacheValue (definition : Definition) (value : StatValue) :
    Mirrors (Session.seen view) (registry.cacheValue definition filters value)
      (registry.cacheValue definition filters value) := by
  intro session
  unfold cacheValue
  cases definition.ttl <;> rfl

/-- What is worked out is the same, if what siblings are worth is. -/
theorem mirrors_workOut (shows : full.Shows view backend) {deeper : Option (Evaluator τ)}
    {deeper' : Option (Evaluator σ)}
    (below : Option.Rel (fun evaluate evaluate' => ∀ name,
      Mirrors (Session.seen view) (evaluate name) (evaluate' name)) deeper deeper')
    (definition : Definition) :
    Mirrors (Session.seen view) (registry.workOut full filters deeper definition)
      (registry.workOut backend filters deeper' definition) := by
  unfold workOut
  cases definition.kind with
  | aggregate spec => exact mirrors_askBackend shows spec
  | calculated derivation =>
    cases below with
    | none => exact fun session => rfl
    | some each => exact mirrors_runDerivation each _ _ derivation

/-- A backend that shows another one changes nothing about a statistic, if it does not about
its siblings. -/
theorem mirrors_evaluateWith (shows : full.Shows view backend) {deeper : Option (Evaluator τ)}
    {deeper' : Option (Evaluator σ)}
    (below : Option.Rel (fun evaluate evaluate' => ∀ name,
      Mirrors (Session.seen view) (evaluate name) (evaluate' name)) deeper deeper')
    (name : String) :
    Mirrors (Session.seen view) (registry.evaluateWith full filters deeper name)
      (registry.evaluateWith backend filters deeper' name) := by
  unfold evaluateWith
  cases registry.definition? name with
  | none => exact .pure none
  | some definition =>
    refine (mirrors_cachedValue definition).bind fun cached => ?_
    cases cached with
    | some value => exact .pure _
    | none =>
      exact (mirrors_workOut shows below definition).bind fun value =>
        (mirrors_cacheValue definition value).bind fun _ => .pure _

/-- A backend that shows another one changes nothing about an evaluation. -/
theorem mirrors_evaluateAt (shows : full.Shows view backend) (levels : Nat) (name : String) :
    Mirrors (Session.seen view) (registry.evaluateAt full filters levels name)
      (registry.evaluateAt backend filters levels name) := by
  induction levels generalizing name with
  | zero => exact mirrors_evaluateWith shows .none name
  | succ levels ih => exact mirrors_evaluateWith shows (.some ih) name

end Mirrors

/-- The question is that of an aggregate of the registry under the filters. -/
def Outlined (backend : Backend σ) (registry : Registry) (filters : Filters) (now : Timestamp)
    (asked : Asked) : Prop :=
  ∃ definition ∈ registry.definitions, ∃ spec state, definition.kind = .aggregate spec ∧
    asked.operation = spec.operation ∧ asked.column = spec.column ∧
    Outlines backend registry spec filters now state (.ok asked.query)

/-- The cache is all that a look into it changes. -/
theorem cachedValue_apply (registry : Registry) (filters : Filters) (definition : Definition)
    (session : Session σ) :
    ∃ cached cache, registry.cachedValue definition filters session =
      (.ok cached, { session with cache }) := by
  unfold cachedValue
  cases definition.ttl with
  | none => exact ⟨none, session.cache, rfl⟩
  | some ttl => exact ⟨_, _, rfl⟩

/-- The cache is all that a new value changes. -/
theorem cacheValue_apply (registry : Registry) (filters : Filters) (definition : Definition)
    (value : StatValue) (session : Session σ) :
    ∃ cache, registry.cacheValue definition filters value session =
      (.ok (), { session with cache }) := by
  unfold cacheValue
  cases definition.ttl with
  | none => exact ⟨session.cache, rfl⟩
  | some ttl => exact ⟨_, rfl⟩

/-- Every new question of an evaluation is outlined, those of siblings included. -/
theorem outlined_of_mem_evaluateAt {session : Session (σ × List Asked)} {asked : Asked}
    (levels : Nat) (name : String) (member : asked ∈
      (registry.evaluateAt backend.recorded filters levels name session).2.backend.2) :
    asked ∈ session.backend.2 ∨ registry.Outlined backend filters session.now asked := by
  let P (reached : Session (σ × List Asked)) : Prop := reached.now = session.now ∧
    ∀ asked ∈ reached.backend.2,
      asked ∈ session.backend.2 ∨ registry.Outlined backend filters session.now asked
  have looks (definition : Definition) : Keeps P (registry.cachedValue definition filters) := by
    intro reached kept
    obtain ⟨cached, cache, looked⟩ := cachedValue_apply registry filters definition reached
    rw [looked]
    exact ⟨kept, trivial⟩
  have stores (definition : Definition) (value : StatValue) :
      Keeps P (registry.cacheValue definition filters value) := by
    intro reached kept
    obtain ⟨cache, stored⟩ := cacheValue_apply registry filters definition value reached
    rw [stored]
    exact ⟨kept, trivial⟩
  have asks (definition : Definition) (spec : AggregateSpec)
      (member : definition ∈ registry.definitions) (kind : definition.kind = .aggregate spec) :
      Keeps P (registry.askBackend backend.recorded filters spec) := by
    intro reached kept
    have outlines := outlines_buildQuery backend registry spec filters reached.now
      reached.backend.1
    rw [askBackend_recorded]
    cases built : registry.buildQuery backend spec filters reached.now reached.backend.1 with
    | error error => exact ⟨kept, trivial⟩
    | ok query =>
      rw [built, kept.1] at outlines
      refine ⟨⟨kept.1, fun asked member' => ?_⟩, trivial⟩
      rcases List.mem_append.mp member' with old | new
      · exact kept.2 asked old
      · obtain rfl := List.mem_singleton.mp new
        exact Or.inr ⟨definition, member, spec, _, kind, rfl, rfl, outlines⟩
  have kept := keeps_evaluateAt looks
    (fun name definition spec found kind =>
      (asks definition spec (definition_of_found found).1 kind).bind fun value =>
        (stores definition value).bind fun _ => .pure _)
    (fun name definition derivation value _ _ => stores definition value)
    levels name session ⟨rfl, fun asked member => Or.inl member⟩
  exact kept.1.2 asked member

/-- An aggregate is looked up in the cache, or else asked for and cached. -/
theorem evaluate_of_aggregate {name : String} {definition : Definition} {spec : AggregateSpec}
    (found : registry.definition? name = some definition)
    (kind : definition.kind = .aggregate spec) :
    registry.evaluate backend name filters = (do
      match ← registry.cachedValue definition filters with
      | some value => pure (some value)
      | none =>
        let value ← registry.askBackend backend filters spec
        registry.cacheValue definition filters value
        pure (some value)) := by
  show registry.evaluateWith backend filters (some _) name = _
  unfold evaluateWith workOut
  simp only [found, kind]
  rfl

/-- An evaluation asks the backend for outlined queries only, and for an aggregate just what is
needed: nothing when a cached value answers, nothing when a scope or a filter is refused, whose
error is the answer, and else the one query that its definition outlines. A query that is asked
for without evaluating is outlined in the same way. -/
theorem evaluate_asks_outlined (backend : Backend σ) (registry : Registry) (name : String)
    (definition : Definition) (spec : AggregateSpec) (filters : Filters)
    (session : Session (σ × List Asked)) (found : registry.definition? name = some definition)
    (kind : definition.kind = .aggregate spec) :
    let answered := registry.evaluate backend.recorded name filters session
    registry.evaluate backend name filters session.forget = (answered.1, answered.2.forget) ∧
    (∀ asker, ∀ asked ∈ (registry.evaluate backend.recorded asker filters session).2.backend.2,
      asked ∈ session.backend.2 ∨ registry.Outlined backend filters session.now asked) ∧
    (∀ meaning, backend.Resolves meaning → ∀ spec state query,
      Outlines backend registry spec filters session.now state (.ok query) →
        Consists meaning registry spec filters session.now state query) ∧
    ∃ plan, Outlines backend registry spec filters session.now session.backend.1 plan ∧
      (∀ cache, (registry.queryFor backend name filters
        ⟨session.now, cache, session.backend.1⟩).1 = plan.map some) ∧
      match (registry.cachedValue definition filters session).1 with
      | .ok none => match plan with
        | .ok query =>
          answered.1 = (backend.aggregate query spec.operation spec.column
            session.backend.1).1.map some ∧
          answered.2.backend.2 = session.backend.2 ++ [⟨query, spec.operation, spec.column⟩]
        | .error error => answered.1 = .error error ∧ answered.2.backend = session.backend
      | cached => answered.1 = cached ∧ answered.2.backend = session.backend := by
  refine ⟨mirrors_evaluateAt backend.shows_recorded maxDerivationDepth name session,
    fun asker asked member => outlined_of_mem_evaluateAt maxDerivationDepth asker member,
    fun meaning resolves spec state query outlines => outlines.consists resolves,
    registry.buildQuery backend spec filters session.now session.backend.1,
    outlines_buildQuery backend registry spec filters session.now session.backend.1,
    fun cache => ?_, ?_⟩
  · obtain ⟨name', kind', ttl⟩ := definition
    obtain rfl : kind' = .aggregate spec := kind
    unfold queryFor
    simp only [found]
    rw [bind_apply]
    unfold buildQueryIn
    cases registry.buildQuery backend spec filters session.now session.backend.1 <;> rfl
  · rw [evaluate_of_aggregate found kind, bind_apply]
    obtain ⟨cached, cache, looked⟩ := cachedValue_apply registry filters definition session
    rw [looked]
    cases cached with
    | some value => exact ⟨rfl, rfl⟩
    | none =>
      simp only
      rw [bind_apply, askBackend_recorded]
      simp only
      cases registry.buildQuery backend spec filters session.now session.backend.1 with
      | error error => exact ⟨rfl, rfl⟩
      | ok query =>
        simp only
        rcases backend.aggregate query spec.operation spec.column session.backend.1 with
          ⟨result, inner⟩
        cases result with
        | error error => exact ⟨rfl, rfl⟩
        | ok value =>
          obtain ⟨cache', stored⟩ := cacheValue_apply registry filters definition value
            (⟨session.now, cache, inner, session.backend.2 ++
              [⟨query, spec.operation, spec.column⟩]⟩ : Session (σ × List Asked))
          simp only
          rw [bind_apply, stored]
          exact ⟨rfl, rfl⟩

/-- A count of the recent items that are kept, and of those nearby where a site is given, compared
on the column `active`; it joins the teams where the filters mention one. -/
def recentCount : AggregateSpec where
  operation := .count
  column := defaultColumn
  scopes := ["all", "recent"]
  rules := [("active", .equality)]
  conditions := [.choice (.has "site") (some (.sql "nearby")) none, .fixed (some (.sql "kept"))]
  joins := some (.choice (.has "team") ["JOIN teams ON teams.id = items.team_id"] [])

/-- The items with that count as their only statistic. -/
def recentItems : Registry :=
  (Registry.empty ⟨"item", "items"⟩ [] .standard).define ⟨"count", .aggregate recentCount, none⟩

/-- A session that has asked nothing of a script that knows one scope. -/
def recentSession : Session (Script × List Asked) :=
  ⟨.last, .empty 1, ⟨[("recent", [.sql "fresh"])], [], .ok .null, [], []⟩, []⟩

/-- The filters `active=true` with a null for the team. -/
def activeWithoutTeam : Filters :=
  .ofList [("active", .bool true), ("team", .null)]

/-- What the count consists of under these filters. -/
theorem eq_of_consists_recentCount {query : Query}
    (consists : Consists Backend.scriptMeaning recentItems recentCount activeWithoutTeam .last
      recentSession.backend.1 query) :
    query.joins = ["JOIN teams ON teams.id = items.team_id"] ∧
      query.constraints = [.sql "fresh", .sql "kept", .equals "active" (.integer 1)] := by
  obtain ⟨scopeParts, conditions, filterParts, scopes, come, resolved, -, joined, constraints⟩ :=
    consists
  have scopeParts : scopeParts = [[.sql "fresh"]] := by
    obtain ⟨part, parts, means, none, rfl⟩ := List.forall₂_cons_left_iff.mp scopes
    obtain rfl := List.forall₂_nil_left_iff.mp none
    rw [← Except.ok.inj means]
  have conditions : conditions = [.sql "kept"] :=
    (Dynamic.comeTo_iff.mp come).symm
  have filterParts : filterParts = [.equals "active" (.integer 1)] := by
    obtain ⟨part, parts, means, none, rfl⟩ := List.forall₂_cons_left_iff.mp resolved
    obtain rfl := List.forall₂_nil_left_iff.mp none
    obtain rfl : Constraint.equals "active" (.integer 1) = part :=
      Option.some.inj (Except.ok.inj means)
    rfl
  constructor
  · cases joined with
    | some gives => exact (Dynamic.gives_iff.mp gives).symm
  · rw [constraints, scopeParts, conditions, filterParts]
    rfl

/-- The backend is asked once: with the constraint of the scope, that of the one condition that comes
to something and that of the filter that has a value, and with the join. -/
theorem recentItems_asks_outlined :
    ∃ question, (recentItems.evaluate Script.backend.recorded "count" activeWithoutTeam
        recentSession).2.backend.2 = [question] ∧
      question.query.joins = ["JOIN teams ON teams.id = items.team_id"] ∧
      question.query.constraints = [.sql "fresh", .sql "kept", .equals "active" (.integer 1)] := by
  obtain ⟨-, -, consists, plan, outlines, -, answered⟩ := evaluate_asks_outlined Script.backend
    recentItems "count" ⟨"count", .aggregate recentCount, none⟩ recentCount activeWithoutTeam
    recentSession rfl rfl
  have succeeds : (recentItems.evaluate Script.backend.recorded "count" activeWithoutTeam
      recentSession).1 = .ok (some .null) := rfl
  cases plan with
  | error error =>
    obtain ⟨failed, -⟩ := answered
    cases succeeds.symm.trans failed
  | ok query =>
    obtain ⟨-, asked⟩ := answered
    exact ⟨_, asked, eq_of_consists_recentCount (consists _ Backend.resolves_script recentCount
      recentSession.backend.1 query outlines)⟩

end Registry

end Statbook
