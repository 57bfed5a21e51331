import Statbook.Proofs.Cache.Store
import Statbook.Proofs.Registry.Calls
import Statbook.Proofs.Registry.Requests
import Statbook.Proofs.Retry.Policy

/-!
# What a request leaves behind

A backend that keeps a log of its answers tells where the values in the cache come from: what a
request adds to the cache is worked out during the request, and the value of an aggregate is an
answer that the backend gave to the query of the aggregate.
-/

namespace Statbook

open Fallible

variable {σ : Type}

/-- A question to a backend and its answer. -/
structure Exchange extends Asked where
  answer : Except StatError StatValue

/-- The backend with a log of the aggregates that it was asked for and of its answers. -/
def Backend.logged (backend : Backend σ) : Backend (σ × List Exchange) where
  applyScope state := backend.applyScope state.1
  aggregate query operation column state :=
    let (result, inner) := backend.aggregate query operation column state.1
    (result, inner, state.2 ++ [⟨⟨query, operation, column⟩, result⟩])
  fetch query state :=
    let (result, inner) := backend.fetch query state.1
    (result, inner, state.2)

theorem Backend.shows_logged (backend : Backend σ) : backend.logged.Shows Prod.fst backend where
  scopes _ := rfl
  answers _ _ _ _ := rfl

/-- The backend was asked for the aggregate that a registry builds, and answered with the value. -/
def Exchange.Gives (backend : Backend σ) (registry : Registry) (spec : AggregateSpec)
    (filters : Filters) (now : Timestamp) (value : StatValue) (exchange : Exchange) : Prop :=
  ∃ state, registry.buildQuery backend spec filters now state = .ok exchange.query ∧
    exchange.operation = spec.operation ∧ exchange.column = spec.column ∧
    exchange.answer = .ok value

namespace Registry

variable {backend : Backend σ} {registry : Registry} {filters : Filters}

section Serve

variable {P : Session σ → Prop}

/-- What evaluations and removals from the cache keep is kept by every request. -/
theorem keeps_serve
    (evaluates : ∀ name filters, Keeps P (registry.evaluate backend name filters))
    (drops : ∀ key, Keeps P (Session.onCache fun cache => ((), cache.invalidate key)))
    (clears : Keeps P (Session.onCache fun cache => ((), cache.clear))) (request : Request) :
    Keeps P (registry.serve backend request) := by
  have gets (name : String) (filters : Filters) : Keeps P (registry.get backend name filters) :=
    registry.retry.ensures_run fun _ => evaluates name filters
  cases request with
  | evaluate name filters => exact (evaluates name filters).bind fun value => .pure _
  | get name filters => exact (gets name filters).bind fun value => .pure _
  | getFresh name filters =>
    have fresh : Keeps P (registry.getFresh backend name filters) :=
      (drops _).bind fun _ => gets name filters
    exact fresh.bind fun value => .pure _
  | getAll filters except =>
    have all : Keeps P (registry.getAll backend filters except) :=
      .mapM (fun name => (gets name filters).bind fun value => .pure _) _
    exact all.bind fun values => .pure _
  | invalidate name filters =>
    have dropped : Keeps P (registry.invalidate name filters) := drops _
    exact dropped.bind fun _ => .pure _
  | clearCache => exact clears.bind fun _ => .pure _

variable {τ : Type} {full : Backend τ} {view : τ → σ}

/-- A backend that shows another one changes nothing about a request. -/
theorem mirrors_serve (shows : full.Shows view backend) (request : Request) :
    Mirrors (Session.seen view) (registry.serve full request) (registry.serve backend request) := by
  have evaluates (name : String) (filters : Filters) : Mirrors (Session.seen view)
      (registry.evaluate full name filters) (registry.evaluate backend name filters) :=
    mirrors_evaluateAt shows maxDerivationDepth name
  have gets (name : String) (filters : Filters) : Mirrors (Session.seen view)
      (registry.get full name filters) (registry.get backend name filters) :=
    registry.retry.mirrors_run fun _ => evaluates name filters
  have drops (name : String) (filters : Filters) : Mirrors (Session.seen view)
      (registry.invalidate name filters) (registry.invalidate name filters) :=
    fun session => rfl
  have clears : Mirrors (Session.seen view) (Session.onCache fun cache => ((), cache.clear))
      (Session.onCache fun cache => ((), cache.clear)) :=
    fun session => rfl
  cases request with
  | evaluate name filters => exact (evaluates name filters).bind fun value => .pure _
  | get name filters => exact (gets name filters).bind fun value => .pure _
  | getFresh name filters =>
    have fresh : Mirrors (Session.seen view) (registry.getFresh full name filters)
        (registry.getFresh backend name filters) :=
      (drops name filters).bind fun _ => gets name filters
    exact fresh.bind fun value => .pure _
  | getAll filters except =>
    have all : Mirrors (Session.seen view) (registry.getAll full filters except)
        (registry.getAll backend filters except) :=
      .mapM (fun name => (gets name filters).bind fun value => .pure _) _
    exact all.bind fun values => .pure _
  | invalidate name filters => exact (drops name filters).bind fun _ => .pure _
  | clearCache => exact clears.bind fun _ => .pure _

end Serve

/-- The entry is one for a statistic of the registry that was worked out at that time; the
value of an aggregate is an answer of the backend. -/
structure WorkedOut (backend : Backend σ) (registry : Registry) (now : Timestamp)
    (exchanges : List Exchange) (pair : String × CacheEntry) where
  definition : Definition
  ttl : Dynamic Duration
  filters : Filters
  found : registry.definition? definition.name = some definition
  timed : definition.ttl = some ttl
  key : pair.1 = fingerprint registry.model.name definition.name filters
  expires : pair.2.expiresAt = now.addSaturating (ttl.resolve filters)
  given : ∀ spec, definition.kind = .aggregate spec →
    ∃ exchange ∈ exchanges, exchange.Gives backend registry spec filters now pair.2.value

/-- A session that was reached from another one: each new entry of its cache was worked out since. -/
def Since (backend : Backend σ) (registry : Registry) (before reached : Session (σ × List Exchange)) :
    Prop :=
  reached.now = before.now ∧ ∃ exchanges, reached.backend.2 = before.backend.2 ++ exchanges ∧
    reached.cache.Holds fun pair => pair ∈ before.cache.store.entries ∨
      Nonempty (WorkedOut backend registry before.now exchanges pair)

variable {before : Session (σ × List Exchange)}

theorem Since.refl (backend : Backend σ) (registry : Registry)
    (before : Session (σ × List Exchange)) : Since backend registry before before :=
  ⟨rfl, [], (List.append_nil _).symm, fun _ member => Or.inl member⟩

/-- What was worked out stays so when more is asked. -/
def WorkedOut.more {now : Timestamp} {exchanges : List Exchange} {pair : String × CacheEntry}
    (worked : WorkedOut backend registry now exchanges pair) (further : List Exchange) :
    WorkedOut backend registry now (exchanges ++ further) pair :=
  { worked with
    given := by
      intro spec kind
      obtain ⟨exchange, member, gives⟩ := worked.given spec kind
      exact ⟨exchange, List.mem_append_left _ member, gives⟩ }

theorem given_of_gives {definition : Definition} {spec : AggregateSpec} {now : Timestamp}
    {value : StatValue} {exchanges : List Exchange} {exchange : Exchange}
    (kind : definition.kind = .aggregate spec) (member : exchange ∈ exchanges)
    (gives : exchange.Gives backend registry spec filters now value) :
    ∀ spec', definition.kind = .aggregate spec' →
      ∃ exchange ∈ exchanges, exchange.Gives backend registry spec' filters now value := by
  intro spec' kind'
  rw [kind] at kind'
  obtain rfl := StatisticKind.aggregate.inj kind'
  exact ⟨exchange, member, gives⟩

/-- What is put into the cache is what was just worked out. -/
theorem since_cacheValue {reached : Session (σ × List Exchange)} {exchanges : List Exchange}
    {definition : Definition} {value : StatValue} (clock : reached.now = before.now)
    (log : reached.backend.2 = before.backend.2 ++ exchanges)
    (holds : reached.cache.Holds fun pair => pair ∈ before.cache.store.entries ∨
      Nonempty (WorkedOut backend registry before.now exchanges pair))
    (found : registry.definition? definition.name = some definition)
    (given : ∀ spec, definition.kind = .aggregate spec →
      ∃ exchange ∈ exchanges, exchange.Gives backend registry spec filters before.now value) :
    Since backend registry before (registry.cacheValue definition filters value reached).2 := by
  unfold cacheValue
  cases timed : definition.ttl with
  | none => exact ⟨clock, exchanges, log, holds⟩
  | some ttl =>
    refine ⟨clock, exchanges, log, ?_⟩
    show (reached.cache.put reached.now _ value _).Holds _
    rw [clock]
    refine holds.put (Or.inr ⟨⟨definition, ttl, filters, found, timed, rfl, ?_, given⟩⟩)
    dsimp only

theorem keeps_cachedValue (definition : Definition) :
    Keeps (Since backend registry before) (registry.cachedValue definition filters) := by
  intro reached since
  unfold cachedValue
  cases definition.ttl with
  | none => exact ⟨since, trivial⟩
  | some ttl =>
    obtain ⟨clock, exchanges, log, holds⟩ := since
    exact ⟨⟨clock, exchanges, log, holds.get reached.now _⟩, trivial⟩

theorem askBackend_logged (spec : AggregateSpec) (session : Session (σ × List Exchange)) :
    registry.askBackend backend.logged filters spec session =
      match registry.buildQuery backend spec filters session.now session.backend.1 with
      | .error error => (.error error, session)
      | .ok query =>
        let (result, inner) :=
          backend.aggregate query spec.operation spec.column session.backend.1
        (result, { session with backend :=
          (inner, session.backend.2 ++ [⟨⟨query, spec.operation, spec.column⟩, result⟩]) }) := by
  rw [askBackend_apply]
  have same : registry.buildQuery backend.logged spec filters session.now session.backend =
      registry.buildQuery backend spec filters session.now session.backend.1 := rfl
  rw [same]
  cases registry.buildQuery backend spec filters session.now session.backend.1 <;> rfl

/-- The session with one more answer of the backend. -/
def noteAnswer (session : Session (σ × List Exchange)) (inner : σ) (exchange : Exchange) :
    Session (σ × List Exchange) :=
  { session with backend := (inner, session.backend.2 ++ [exchange]) }

theorem askAnew_logged (definition : Definition) (spec : AggregateSpec)
    (session : Session (σ × List Exchange)) :
    registry.askAnew backend.logged filters definition spec session =
      match registry.buildQuery backend spec filters session.now session.backend.1 with
      | .error error => (.error error, session)
      | .ok query =>
        match backend.aggregate query spec.operation spec.column session.backend.1 with
        | (.error error, inner) => (.error error,
            noteAnswer session inner ⟨⟨query, spec.operation, spec.column⟩, .error error⟩)
        | (.ok value, inner) => (.ok (some value),
            (registry.cacheValue definition filters value
              (noteAnswer session inner ⟨⟨query, spec.operation, spec.column⟩, .ok value⟩)).2) := by
  unfold askAnew
  rw [bind_apply, askBackend_logged]
  cases registry.buildQuery backend spec filters session.now session.backend.1 with
  | error error => rfl
  | ok query =>
    simp only
    rcases backend.aggregate query spec.operation spec.column session.backend.1 with
      ⟨result, inner⟩
    cases result with
    | error error => rfl
    | ok value =>
      obtain ⟨cache, stored⟩ := cacheValue_apply registry filters definition value
        (noteAnswer session inner ⟨⟨query, spec.operation, spec.column⟩, .ok value⟩)
      simp only
      rw [stored]
      show (registry.cacheValue definition filters value >>= fun _ => pure (some value))
        (noteAnswer session inner ⟨⟨query, spec.operation, spec.column⟩, .ok value⟩) = _
      rw [bind_apply, stored]
      rfl

/-- An aggregate that is worked out anew is given by the backend, and cached as such. -/
theorem since_askAnew {definition : Definition} {spec : AggregateSpec}
    (found : registry.definition? definition.name = some definition)
    (kind : definition.kind = .aggregate spec) {reached : Session (σ × List Exchange)}
    (since : Since backend registry before reached) :
    Since backend registry before
        (registry.askAnew backend.logged filters definition spec reached).2 ∧
      ∀ value, (registry.askAnew backend.logged filters definition spec reached).1 =
          .ok (some value) →
        ∃ exchange, exchange.Gives backend registry spec filters before.now value ∧
          (registry.askAnew backend.logged filters definition spec reached).2.backend.2 =
            reached.backend.2 ++ [exchange] := by
  obtain ⟨clock, exchanges, log, holds⟩ := since
  rw [askAnew_logged]
  cases built : registry.buildQuery backend spec filters reached.now reached.backend.1 with
  | error error => exact ⟨⟨clock, exchanges, log, holds⟩, fun value failed => by cases failed⟩
  | ok query =>
    rw [clock] at built
    simp only
    rcases backend.aggregate query spec.operation spec.column reached.backend.1 with
      ⟨result, inner⟩
    have log' (exchange : Exchange) :
        (noteAnswer reached inner exchange).backend.2 =
          before.backend.2 ++ (exchanges ++ [exchange]) := by
      rw [← List.append_assoc, ← log]
      rfl
    have holds' (exchange : Exchange) : reached.cache.Holds fun pair =>
        pair ∈ before.cache.store.entries ∨
          Nonempty (WorkedOut backend registry before.now (exchanges ++ [exchange]) pair) :=
      holds.mono fun pair either => either.imp_right fun ⟨worked⟩ => ⟨worked.more [exchange]⟩
    cases result with
    | error error =>
      exact ⟨⟨clock, _, log' _, holds' _⟩, fun value failed => by cases failed⟩
    | ok value =>
      simp only
      generalize noted :
        (⟨⟨query, spec.operation, spec.column⟩, .ok value⟩ : Exchange) = exchange
      have gives : exchange.Gives backend registry spec filters before.now value := by
        subst noted
        exact ⟨reached.backend.1, built, rfl, rfl, rfl⟩
      constructor
      · exact since_cacheValue clock (log' exchange) (holds' exchange) found
          (given_of_gives kind (by simp) gives)
      · intro value' answered
        obtain rfl := Option.some.inj (Except.ok.inj answered)
        obtain ⟨cache, stored⟩ := cacheValue_apply registry filters definition value
          (noteAnswer reached inner exchange)
        rw [stored]
        exact ⟨exchange, gives, rfl⟩

/-- Each new entry that an evaluation leaves in the cache was worked out during it. -/
theorem keeps_evaluate (name : String) (filters : Filters) :
    Keeps (Since backend registry before) (registry.evaluate backend.logged name filters) := by
  refine keeps_evaluateAt keeps_cachedValue ?_ ?_ maxDerivationDepth name
  · intro name definition spec found kind reached since
    obtain rfl := (definition_of_found found).2
    exact ⟨(since_askAnew found kind since).1, trivial⟩
  · intro name definition derivation value found kind reached since
    obtain rfl := (definition_of_found found).2
    obtain ⟨clock, exchanges, log, holds⟩ := since
    refine ⟨since_cacheValue clock log holds found fun spec kind' => ?_, trivial⟩
    rw [kind] at kind'
    cases kind'

/-- Each new entry that a request leaves in the cache was worked out during it. -/
theorem since_serve (backend : Backend σ) (registry : Registry) (request : Request)
    (session : Session (σ × List Exchange)) :
    Since backend registry session (registry.serve backend.logged request session).2 := by
  refine (keeps_serve keeps_evaluate ?_ ?_ request session (.refl backend registry session)).1
  · rintro key reached ⟨clock, exchanges, log, holds⟩
    exact ⟨⟨clock, exchanges, log, holds.invalidate key⟩, trivial⟩
  · rintro reached ⟨clock, exchanges, log, holds⟩
    exact ⟨⟨clock, exchanges, log, Cache.Holds.clear _⟩, trivial⟩

end Registry

end Statbook
