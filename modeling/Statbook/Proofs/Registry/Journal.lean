import Statbook.Proofs.Cache.Holding
import Statbook.Proofs.Registry.Declarations

/-!
# The journal of a catalog

A journal notes what happens while a catalog is asked: what is done to the cache and to the clock,
what the backend is asked and answers, and where calculations begin and end. Keeping it changes no
answer and no session. It tells what the cache holds, for that is what the noted actions make of it,
and how deep calculations were nested.
-/

namespace Statbook

open Fallible

variable {σ : Type}

/-- What a journal notes. -/
inductive Event where
  | cache (action : CacheAction)
  | asked (exchange : Exchange)
  | began (name : String)
  | ended (name : String)

namespace Event

def cacheAction? : Event → Option CacheAction
  | cache action => some action
  | asked _ | began _ | ended _ => none

def exchange? : Event → Option Exchange
  | asked exchange => some exchange
  | cache _ | began _ | ended _ => none

/-- The number of calculations under way after the event. -/
def underway (count : Nat) : Event → Nat
  | began _ => count + 1
  | ended _ => count - 1
  | cache _ | asked _ => count

end Event

/-- Events in the order in which they happened. -/
abbrev Journal := List Event

namespace Journal

/-- What was done to the cache and to the clock. -/
def cacheActions (events : Journal) : List CacheAction :=
  events.filterMap Event.cacheAction?

/-- What the backend was asked, with its answers. -/
def exchanges (events : Journal) : List Exchange :=
  events.filterMap Event.exchange?

/-- The number of calculations under way after the events. -/
def underway (count : Nat) (events : Journal) : Nat :=
  events.foldl Event.underway count

/-- The greatest number of calculations that are under way at once. -/
def deepest (count : Nat) : Journal → Nat
  | [] => count
  | event :: events => max count (deepest (event.underway count) events)

theorem cacheActions_append (first second : Journal) :
    cacheActions (first ++ second) = cacheActions first ++ cacheActions second :=
  List.filterMap_append

theorem cacheActions_calculated (name : String) (events : Journal) :
    cacheActions (.began name :: (events ++ [.ended name])) = cacheActions events := by
  show cacheActions (events ++ [.ended name]) = _
  rw [cacheActions_append]
  exact List.append_nil _

theorem exchanges_append (first second : Journal) :
    exchanges (first ++ second) = exchanges first ++ exchanges second :=
  List.filterMap_append

theorem underway_append (count : Nat) (first second : Journal) :
    underway count (first ++ second) = underway (underway count first) second :=
  List.foldl_append

theorem le_deepest (count : Nat) (events : Journal) : count ≤ deepest count events := by
  cases events with
  | nil => exact Nat.le_refl count
  | cons event events => exact Nat.le_max_left ..

theorem deepest_append (count : Nat) (first second : Journal) :
    deepest count (first ++ second) =
      max (deepest count first) (deepest (underway count first) second) := by
  induction first generalizing count with
  | nil => exact (Nat.max_eq_right (le_deepest count second)).symm
  | cons event first ih =>
    rw [List.cons_append, deepest, deepest, ih, Nat.max_assoc]
    rfl

end Journal

namespace Session

/-- The session with an event noted. -/
def note (event : Event) (session : Session (σ × Journal)) : Session (σ × Journal) :=
  { session with backend := (session.backend.1, session.backend.2 ++ [event]) }

/-- A computation on the cache with the action noted that it does. -/
def noting {α : Type} (action : CacheAction) (run : Fallible (Session (σ × Journal)) α) :
    Fallible (Session (σ × Journal)) α := fun session =>
  run (session.note (.cache action))

/-- A calculation with its beginning and its end noted. -/
def calculating {α : Type} (name : String) (run : Fallible (Session (σ × Journal)) α) :
    Fallible (Session (σ × Journal)) α := fun session =>
  let (result, session) := run (session.note (.began name))
  (result, session.note (.ended name))

end Session

/-- The backend with its answers noted. -/
def Backend.noted (backend : Backend σ) : Backend (σ × Journal) where
  applyScope state := backend.applyScope state.1
  aggregate query operation column state :=
    let (result, inner) := backend.aggregate query operation column state.1
    (result, inner, state.2 ++ [.asked ⟨⟨query, operation, column⟩, result⟩])
  fetch query state :=
    let (result, inner) := backend.fetch query state.1
    (result, inner, state.2)

theorem Backend.shows_noted (backend : Backend σ) : backend.noted.Shows Prod.fst backend where
  scopes _ := rfl
  answers _ _ _ _ := rfl

namespace Registry

/-- Looks a value up in the cache, if the statistic has a time to live. -/
def notedLook (registry : Registry) (definition : Definition) (filters : Filters) :
    Fallible (Session (σ × Journal)) (Option StatValue) :=
  match definition.ttl with
  | none => registry.cachedValue definition filters
  | some _ =>
    Session.noting (.get (fingerprint registry.model.name definition.name filters))
      (registry.cachedValue definition filters)

/-- Caches a value, if the statistic has a time to live. -/
def notedStore (registry : Registry) (definition : Definition) (filters : Filters)
    (value : StatValue) : Fallible (Session (σ × Journal)) Unit :=
  match definition.ttl with
  | none => registry.cacheValue definition filters value
  | some ttl =>
    Session.noting
      (.put (fingerprint registry.model.name definition.name filters) value (ttl.resolve filters))
      (registry.cacheValue definition filters value)

/-- Works out the value of a statistic. -/
def notedWork (backend : Backend σ) (registry : Registry) (filters : Filters)
    (deeper : Option (Evaluator (σ × Journal))) (definition : Definition) :
    Fallible (Session (σ × Journal)) StatValue :=
  match definition.kind, deeper with
  | .calculated _, some _ =>
    Session.calculating definition.name
      (registry.workOut backend.noted filters deeper definition)
  | .calculated _, none | .aggregate _, _ =>
    registry.workOut backend.noted filters deeper definition

/-- Evaluates a statistic. -/
def notedWith (backend : Backend σ) (registry : Registry) (filters : Filters)
    (deeper : Option (Evaluator (σ × Journal))) : Evaluator (σ × Journal) := fun name =>
  match registry.definition? name with
  | none => pure none
  | some definition => do
    match ← registry.notedLook definition filters with
    | some value => pure (some value)
    | none =>
      let value ← registry.notedWork backend filters deeper definition
      registry.notedStore definition filters value
      pure (some value)

/-- Evaluates a statistic below which calculations may be nested `levels` deep. -/
def notedAt (backend : Backend σ) (registry : Registry) (filters : Filters) :
    (levels : Nat) → Evaluator (σ × Journal)
  | 0 => registry.notedWith backend filters none
  | levels + 1 => registry.notedWith backend filters (some (registry.notedAt backend filters levels))

/-- Evaluates a statistic once. -/
def notedEvaluate (backend : Backend σ) (registry : Registry) (name : String)
    (filters : Filters) : Fallible (Session (σ × Journal)) (Option StatValue) :=
  registry.notedAt backend filters maxDerivationDepth name

/-- Evaluates a statistic, with failures of the backend retried. -/
def notedGet (backend : Backend σ) (registry : Registry) (name : String) (filters : Filters) :
    Fallible (Session (σ × Journal)) (Option StatValue) :=
  registry.retry.run fun _ => registry.notedEvaluate backend name filters

/-- Drops the cached value of a question. -/
def notedInvalidate (registry : Registry) (name : String) (filters : Filters) :
    Fallible (Session (σ × Journal)) Unit :=
  Session.noting (.invalidate (fingerprint registry.model.name name filters))
    (registry.invalidate name filters)

/-- Evaluates a statistic anew. -/
def notedGetFresh (backend : Backend σ) (registry : Registry) (name : String)
    (filters : Filters) : Fallible (Session (σ × Journal)) (Option StatValue) := do
  registry.notedInvalidate name filters
  registry.notedGet backend name filters

/-- Serves one request. -/
def notedServe (backend : Backend σ) (registry : Registry) :
    Request → Fallible (Session (σ × Journal)) Answer
  | .evaluate name filters => do
    let value ← registry.notedEvaluate backend name filters
    pure (.value value)
  | .get name filters => do
    let value ← registry.notedGet backend name filters
    pure (.value value)
  | .getFresh name filters => do
    let value ← registry.notedGetFresh backend name filters
    pure (.value value)
  | .getAll filters except => do
    let values ← (registry.names.filter fun name => some name ≠ except).mapM fun name => do
      let value ← registry.notedGet backend name filters
      pure (name, value.getD .null)
    pure (.values values)
  | .invalidate name filters => do
    registry.notedInvalidate name filters
    pure .done
  | .clearCache => do
    Session.noting .clear (Session.onCache fun cache => ((), cache.clear))
    pure .done

end Registry

section Erasure

variable {backend : Backend σ} {registry : Registry} {filters : Filters} {α : Type}
  {run : Fallible (Session (σ × Journal)) α} {plain : Fallible (Session σ) α}

theorem Session.mirrors_noting (action : CacheAction) (mirrors : Mirrors (seen Prod.fst) run plain) :
    Mirrors (seen Prod.fst) (noting action run) plain :=
  fun session => mirrors (session.note (.cache action))

theorem Session.mirrors_calculating (name : String)
    (mirrors : Mirrors (seen Prod.fst) run plain) :
    Mirrors (seen Prod.fst) (calculating name run) plain :=
  fun session => mirrors (session.note (.began name))

namespace Registry

open Session

theorem mirrors_notedLook (definition : Definition) :
    Mirrors (seen Prod.fst) (registry.notedLook (σ := σ) definition filters)
      (registry.cachedValue definition filters) := by
  unfold notedLook
  split
  · exact mirrors_cachedValue definition
  · exact mirrors_noting _ (mirrors_cachedValue definition)

theorem mirrors_notedStore (definition : Definition) (value : StatValue) :
    Mirrors (seen Prod.fst) (registry.notedStore (σ := σ) definition filters value)
      (registry.cacheValue definition filters value) := by
  unfold notedStore
  split
  · exact mirrors_cacheValue definition value
  · exact mirrors_noting _ (mirrors_cacheValue definition value)

theorem mirrors_notedWith {deeper : Option (Evaluator (σ × Journal))}
    {deeper' : Option (Evaluator σ)}
    (below : Option.Rel (fun evaluate evaluate' => ∀ name,
      Mirrors (seen Prod.fst) (evaluate name) (evaluate' name)) deeper deeper') (name : String) :
    Mirrors (seen Prod.fst) (registry.notedWith backend filters deeper name)
      (registry.evaluateWith backend filters deeper' name) := by
  unfold notedWith evaluateWith
  cases registry.definition? name with
  | none => exact .pure none
  | some definition =>
    have worked : Mirrors (seen Prod.fst) (registry.notedWork backend filters deeper definition)
        (registry.workOut backend filters deeper' definition) := by
      have works : Mirrors (seen Prod.fst)
          (registry.workOut backend.noted filters deeper definition)
          (registry.workOut backend filters deeper' definition) :=
        mirrors_workOut backend.shows_noted below definition
      unfold notedWork
      split
      · exact mirrors_calculating definition.name works
      · exact works
      · exact works
    refine (mirrors_notedLook definition).bind fun cached => ?_
    cases cached with
    | some value => exact .pure _
    | none =>
      exact worked.bind fun value => (mirrors_notedStore definition value).bind fun _ => .pure _

theorem mirrors_notedAt (levels : Nat) (name : String) :
    Mirrors (seen Prod.fst) (registry.notedAt backend filters levels name)
      (registry.evaluateAt backend filters levels name) := by
  induction levels generalizing name with
  | zero => exact mirrors_notedWith .none name
  | succ levels ih => exact mirrors_notedWith (.some ih) name

theorem mirrors_notedGet (name : String) (filters : Filters) :
    Mirrors (seen Prod.fst) (registry.notedGet backend name filters)
      (registry.get backend name filters) :=
  registry.retry.mirrors_run fun _ => mirrors_notedAt maxDerivationDepth name

/-- A journal changes nothing about a request. -/
theorem mirrors_notedServe (request : Request) :
    Mirrors (seen Prod.fst) (registry.notedServe backend request)
      (registry.serve backend request) := by
  have drops (name : String) (filters : Filters) : Mirrors (seen Prod.fst)
      (registry.notedInvalidate (σ := σ) name filters) (registry.invalidate name filters) :=
    mirrors_noting _ fun session => rfl
  have clears : Mirrors (seen Prod.fst)
      (noting (σ := σ) .clear (Session.onCache fun cache => ((), cache.clear)))
      (Session.onCache fun cache => ((), cache.clear)) :=
    mirrors_noting _ fun session => rfl
  cases request with
  | evaluate name filters =>
    exact (mirrors_notedAt maxDerivationDepth name).bind fun value => .pure _
  | get name filters => exact (mirrors_notedGet name filters).bind fun value => .pure _
  | getFresh name filters =>
    have fresh : Mirrors (seen Prod.fst) (registry.notedGetFresh backend name filters)
        (registry.getFresh backend name filters) :=
      (drops name filters).bind fun _ => mirrors_notedGet name filters
    exact fresh.bind fun value => .pure _
  | getAll filters except =>
    exact (Mirrors.mapM (fun name =>
      (mirrors_notedGet name filters).bind fun value => .pure _) _).bind fun values => .pure _
  | invalidate name filters => exact (drops name filters).bind fun _ => .pure _
  | clearCache => exact clears.bind fun _ => .pure _

end Registry

end Erasure

section Growth

/-- What is done between two sessions is noted: the cache and its clock are what the noted actions
make of them, and the clock stands still. Calculations are nested at most `levels` deep, and none is
left under way. -/
structure Session.Grows (levels : Nat) (before : Session (σ × Journal)) (events : Journal)
    (after : Session (σ × Journal)) : Prop where
  journal : after.backend.2 = before.backend.2 ++ events
  timed : TimedCache.mk after.cache after.now =
    (Journal.cacheActions events).foldl TimedCache.perform ⟨before.cache, before.now⟩
  still : ∀ action ∈ Journal.cacheActions events, action.KeepsClock
  balanced : ∀ count, Journal.underway count events = count
  nested : ∀ count, Journal.deepest count events ≤ count + levels

namespace Session.Grows

variable {levels : Nat} {before between after : Session (σ × Journal)} {events later : Journal}

theorem refl (levels : Nat) (session : Session (σ × Journal)) : Grows levels session [] session where
  journal := (List.append_nil _).symm
  timed := rfl
  still _ member := absurd member List.not_mem_nil
  balanced _ := rfl
  nested count := Nat.le_add_right count levels

theorem trans (first : Grows levels before events between) (second : Grows levels between later after) :
    Grows levels before (events ++ later) after where
  journal := by rw [second.journal, first.journal, List.append_assoc]
  timed := by rw [Journal.cacheActions_append, List.foldl_append, ← first.timed, second.timed]
  still action member := by
    rw [Journal.cacheActions_append, List.mem_append] at member
    exact member.elim (first.still action) (second.still action)
  balanced count := by rw [Journal.underway_append, first.balanced, second.balanced]
  nested count := by
    rw [Journal.deepest_append, first.balanced]
    exact Nat.max_le.mpr ⟨first.nested count, second.nested count⟩

theorem now (grows : Grows levels before events after) : after.now = before.now := by
  show (TimedCache.mk after.cache after.now).now = _
  rw [grows.timed]
  exact TimedCache.now_foldl grows.still

/-- Nothing but the cache is changed, by the action that is noted. -/
theorem cached (action : CacheAction) (still : action.KeepsClock) {cache : Cache}
    (timed : TimedCache.mk cache before.now = TimedCache.perform ⟨before.cache, before.now⟩ action) :
    Grows levels before [.cache action]
      { before with cache, backend := (before.backend.1, before.backend.2 ++ [.cache action]) } where
  journal := rfl
  timed := timed
  still action' member := by
    obtain rfl : action' = action := List.mem_singleton.mp member
    exact still
  balanced _ := rfl
  nested count := Nat.max_le.mpr ⟨Nat.le_add_right count levels, Nat.le_add_right count levels⟩

theorem asked (exchange : Exchange) (inner : σ) : Grows levels before [.asked exchange]
    { before with backend := (inner, before.backend.2 ++ [.asked exchange]) } where
  journal := rfl
  timed := rfl
  still _ member := absurd member List.not_mem_nil
  balanced _ := rfl
  nested count := Nat.max_le.mpr ⟨Nat.le_add_right count levels, Nat.le_add_right count levels⟩

/-- A calculation is one level above what it does. -/
theorem calculated (name : String) (grows : Grows levels (before.note (.began name)) events after) :
    Grows (levels + 1) before (.began name :: (events ++ [.ended name]))
      (after.note (.ended name)) where
  journal := by
    show after.backend.2 ++ [_] = _
    rw [grows.journal]
    simp [note]
  timed := by
    rw [Journal.cacheActions_calculated]
    exact grows.timed
  still := by
    rw [Journal.cacheActions_calculated]
    exact grows.still
  balanced count := by
    show Journal.underway (count + 1) (events ++ [.ended name]) = count
    rw [Journal.underway_append, grows.balanced]
    rfl
  nested count := by
    show max count (Journal.deepest (count + 1) (events ++ [.ended name])) ≤ count + (levels + 1)
    rw [Journal.deepest_append, grows.balanced]
    have inner := grows.nested (count + 1)
    show max count (max _ (max (count + 1) count)) ≤ count + (levels + 1)
    omega

end Session.Grows

/-- Whatever the computation does is noted, with calculations nested at most `levels` deep. -/
def Session.Notes {α : Type} (levels : Nat) (run : Fallible (Session (σ × Journal)) α) : Prop :=
  ∀ session, ∃ events, Session.Grows levels session events (run session).2

namespace Session.Notes

variable {α β : Type} {levels : Nat}

theorem pure (value : α) : Notes (σ := σ) levels (Pure.pure value) :=
  fun session => ⟨[], .refl levels session⟩

theorem bind {run : Fallible (Session (σ × Journal)) α}
    {next : α → Fallible (Session (σ × Journal)) β} (first : Notes levels run)
    (second : ∀ value, Notes levels (next value)) : Notes levels (run >>= next) := by
  intro session
  obtain ⟨events, grows⟩ := first session
  rw [bind_apply]
  rcases h : run session with ⟨result, reached⟩
  rw [h] at grows
  cases result with
  | ok value =>
    obtain ⟨later, grows'⟩ := second value reached
    exact ⟨events ++ later, grows.trans grows'⟩
  | error error => exact ⟨events, grows⟩

theorem mapM {run : α → Fallible (Session (σ × Journal)) β} (each : ∀ x, Notes levels (run x))
    (xs : List α) : Notes levels (xs.mapM run) := by
  induction xs with
  | nil => exact pure []
  | cons x xs ih =>
    rw [List.mapM_cons]
    exact bind (each x) fun y => bind ih fun ys => pure (y :: ys)

theorem outcome {run : Fallible (Session (σ × Journal)) α} (notes : Notes levels run) :
    Notes levels (Session.outcome run) :=
  notes

theorem attempts (policy : RetryPolicy) {run : Nat → Fallible (Session (σ × Journal)) α}
    (each : ∀ attempt, Notes levels (run attempt)) (attempt further : Nat) :
    Notes levels (policy.attemptFrom run attempt further) := by
  intro session
  have first : ∃ events, Grows levels session events session := ⟨[], .refl levels session⟩
  have kept (attempt : Nat) : Keeps (fun reached => ∃ events, Grows levels session events reached)
      (run attempt) := by
    rintro reached ⟨events, grows⟩
    obtain ⟨later, grows'⟩ := each attempt reached
    exact ⟨⟨events ++ later, grows.trans grows'⟩, trivial⟩
  exact (policy.ensures_attemptFrom kept attempt further session first).1

end Session.Notes

namespace Registry

open Session

variable {backend : Backend σ} {registry : Registry} {filters : Filters} {levels : Nat}

theorem notes_notedLook (definition : Definition) :
    Notes levels (registry.notedLook (σ := σ) definition filters) := by
  intro session
  unfold notedLook cachedValue
  cases definition.ttl with
  | none => exact ⟨[], .refl levels session⟩
  | some ttl => exact ⟨[_], .cached (.get _) trivial rfl⟩

theorem notes_notedStore (definition : Definition) (value : StatValue) :
    Notes levels (registry.notedStore (σ := σ) definition filters value) := by
  intro session
  unfold notedStore cacheValue
  cases definition.ttl with
  | none => exact ⟨[], .refl levels session⟩
  | some ttl => exact ⟨[_], .cached (.put _ _ _) trivial rfl⟩

theorem notes_askBackend (spec : AggregateSpec) :
    Notes levels (registry.askBackend backend.noted filters spec) := by
  intro session
  rw [askBackend_apply]
  cases registry.buildQuery backend.noted spec filters session.now session.backend with
  | error error => exact ⟨[], .refl levels session⟩
  | ok query => exact ⟨[_], .asked _ _⟩

theorem notes_runDerivation {evaluate : Evaluator (σ × Journal)}
    (each : ∀ name, Notes levels (evaluate name)) (names : List String) (caller : String)
    (derivation : Derivation) :
    Notes levels (runDerivation evaluate names caller filters derivation) := by
  have sibling (name : String) : Notes levels (siblingValue evaluate caller name) := by
    unfold siblingValue
    split
    · exact .pure _
    · exact (each name).bind fun value => .pure _
  have siblings : Notes levels (siblingValues evaluate names caller) :=
    .mapM (fun name => (sibling name).bind fun value => .pure _) _
  induction derivation with
  | done result => exact fun session => ⟨[], .refl levels session⟩
  | sibling name next ih => exact (sibling name).outcome.bind fun result => ih result
  | siblings next ih => exact siblings.outcome.bind fun result => ih result
  | filters next ih => exact ih filters

/-- What is worked out is noted one level above what the siblings note. -/
theorem notes_notedWork {deeper : Option (Evaluator (σ × Journal))} (definition : Definition)
    (below : ∀ evaluate, deeper = some evaluate →
      ∃ levels', levels = levels' + 1 ∧ ∀ name, Notes levels' (evaluate name)) :
    Notes levels (registry.notedWork backend filters deeper definition) := by
  unfold notedWork workOut
  cases definition.kind with
  | aggregate spec => exact notes_askBackend spec
  | calculated derivation =>
    cases deeper with
    | none => exact fun session => ⟨[], .refl levels session⟩
    | some evaluate =>
      obtain ⟨levels', rfl, each⟩ := below evaluate rfl
      intro session
      obtain ⟨events, grows⟩ := notes_runDerivation each registry.names definition.name derivation
        (session.note (.began definition.name))
      exact ⟨_, .calculated definition.name grows⟩

theorem notes_notedWith {deeper : Option (Evaluator (σ × Journal))}
    (below : ∀ evaluate, deeper = some evaluate →
      ∃ levels', levels = levels' + 1 ∧ ∀ name, Notes levels' (evaluate name)) (name : String) :
    Notes levels (registry.notedWith backend filters deeper name) := by
  unfold notedWith
  cases registry.definition? name with
  | none => exact .pure none
  | some definition =>
    refine (notes_notedLook definition).bind fun cached => ?_
    cases cached with
    | some value => exact .pure _
    | none =>
      exact (notes_notedWork definition below).bind fun value =>
        (notes_notedStore definition value).bind fun _ => .pure _

/-- An evaluation nests calculations as deep as it may at most. -/
theorem notes_notedAt (levels : Nat) (name : String) :
    Notes levels (registry.notedAt backend filters levels name) := by
  induction levels generalizing name with
  | zero => exact notes_notedWith (fun evaluate absent => by cases absent) name
  | succ levels ih =>
    refine notes_notedWith (fun evaluate present => ⟨levels, rfl, ?_⟩) name
    obtain rfl := Option.some.inj present
    exact ih

theorem notes_notedGet (name : String) (filters : Filters) :
    Notes maxDerivationDepth (registry.notedGet backend name filters) :=
  .attempts registry.retry (fun _ => notes_notedAt maxDerivationDepth name) 1 _

/-- What a request does is noted. -/
theorem notes_notedServe (request : Request) :
    Notes maxDerivationDepth (registry.notedServe backend request) := by
  have drops (name : String) (filters : Filters) :
      Notes maxDerivationDepth (registry.notedInvalidate (σ := σ) name filters) :=
    fun session => ⟨[_], .cached (.invalidate _) trivial rfl⟩
  have clears : Notes (σ := σ) maxDerivationDepth
      (noting .clear (Session.onCache fun cache => ((), cache.clear))) :=
    fun session => ⟨[_], .cached .clear trivial rfl⟩
  cases request with
  | evaluate name filters =>
    exact Notes.bind (notes_notedAt maxDerivationDepth name) fun value => .pure _
  | get name filters => exact (notes_notedGet name filters).bind fun value => .pure _
  | getFresh name filters =>
    have fresh : Notes maxDerivationDepth (registry.notedGetFresh backend name filters) :=
      (drops name filters).bind fun _ => notes_notedGet name filters
    exact fresh.bind fun value => .pure _
  | getAll filters except =>
    exact (Notes.mapM (fun name => (notes_notedGet name filters).bind fun value => .pure _) _).bind
      fun values => .pure _
  | invalidate name filters => exact (drops name filters).bind fun _ => .pure _
  | clearCache => exact clears.bind fun _ => .pure _

end Registry

end Growth

/-- What may happen to a catalog with a cache that others use as well. -/
inductive Traffic where
  | catalog (action : CatalogAction)
  | cache (action : CacheAction)

namespace LiveCatalog

/-- The cache and its clock. -/
def timed (live : LiveCatalog σ) : TimedCache :=
  ⟨live.session.cache, live.session.now⟩

/-- The session with a cache and its clock put in. -/
def withTimed (live : LiveCatalog σ) (timed : TimedCache) : LiveCatalog σ :=
  { live with session := { live.session with cache := timed.cache, now := timed.now } }

/-- The catalog and the session after something happened. -/
def step (backend : Backend σ) (live : LiveCatalog σ) : Traffic → LiveCatalog σ
  | .catalog action => live.perform backend action
  | .cache action => live.withTimed (live.timed.perform action)

/-- The catalog and the session after all that happened. -/
def after (backend : Backend σ) (start : LiveCatalog σ) (traffic : List Traffic) : LiveCatalog σ :=
  traffic.foldl (step backend) start

/-- What was noted. -/
def journal (live : LiveCatalog (σ × Journal)) : Journal :=
  live.session.backend.2

/-- The catalog with an event noted. -/
def note (live : LiveCatalog (σ × Journal)) (event : Event) : LiveCatalog (σ × Journal) :=
  { live with session := live.session.note event }

/-- The catalog and the session after something happened and was noted. -/
def notedStep (backend : Backend σ) (live : LiveCatalog (σ × Journal)) :
    Traffic → LiveCatalog (σ × Journal)
  | .catalog (.serve model request) =>
    match live.catalog.registry? model with
    | some registry => { live with session := (registry.notedServe backend request live.session).2 }
    | none => live
  | .catalog (.setClock now) =>
    (live.withTimed (live.timed.perform (.setClock now))).note (.cache (.setClock now))
  | .catalog action => live.perform backend.noted action
  | .cache action => (live.withTimed (live.timed.perform action)).note (.cache action)

/-- The catalog and the session after all that happened was noted. -/
def notedAfter (backend : Backend σ) (start : LiveCatalog (σ × Journal)) (traffic : List Traffic) :
    LiveCatalog (σ × Journal) :=
  traffic.foldl (notedStep backend) start

variable {backend : Backend σ}

theorem notedAfter_append (start : LiveCatalog (σ × Journal)) (early late : List Traffic) :
    notedAfter backend start (early ++ late) = notedAfter backend (notedAfter backend start early) late :=
  List.foldl_append

theorem notedStep_seen (live : LiveCatalog (σ × Journal)) (traffic : Traffic) :
    (live.seen Prod.fst).step backend traffic = (live.notedStep backend traffic).seen Prod.fst := by
  cases traffic with
  | cache action => rfl
  | catalog action =>
    cases action with
    | serve model request =>
      simp only [step, perform, notedStep, seen]
      cases live.catalog.registry? model with
      | none => rfl
      | some registry =>
        simp only [Registry.mirrors_notedServe request live.session]
    | define model definition => rfl
    | setRule model key rule => rfl
    | setDefaultRules rules => rfl
    | setClock now => rfl

/-- A journal changes nothing about what happens. -/
theorem notedAfter_seen (start : LiveCatalog (σ × Journal)) (traffic : List Traffic) :
    (start.seen Prod.fst).after backend traffic =
      (notedAfter backend start traffic).seen Prod.fst := by
  induction traffic generalizing start with
  | nil => rfl
  | cons first traffic ih =>
    show ((start.seen Prod.fst).step backend first).after backend traffic =
      (notedAfter backend (start.notedStep backend first) traffic).seen Prod.fst
    rw [notedStep_seen, ih]

/-- What happens to the cache and its clock is noted; the clock is moved at the end if at all. -/
theorem exists_noted_step (live : LiveCatalog (σ × Journal)) (traffic : Traffic) :
    ∃ events, (live.notedStep backend traffic).journal = live.journal ++ events ∧
      (live.notedStep backend traffic).timed =
        (Journal.cacheActions events).foldl TimedCache.perform live.timed ∧
      ∀ met ∈ trace TimedCache.perform live.timed (Journal.cacheActions events),
        met.1.now = live.session.now := by
  have nothing : ∃ events, live.journal = live.journal ++ events ∧
      live.timed = (Journal.cacheActions events).foldl TimedCache.perform live.timed ∧
      ∀ met ∈ trace TimedCache.perform live.timed (Journal.cacheActions events),
        met.1.now = live.session.now :=
    ⟨[], (List.append_nil _).symm, rfl, fun _ member => absurd member List.not_mem_nil⟩
  have single (action : CacheAction) :
      ∀ met ∈ trace TimedCache.perform live.timed (Journal.cacheActions [.cache action]),
        met.1.now = live.session.now := by
    intro met member
    obtain rfl : met = (live.timed, action) := List.mem_singleton.mp member
    rfl
  cases traffic with
  | cache action => exact ⟨[.cache action], rfl, rfl, single action⟩
  | catalog action =>
    cases action with
    | serve model request =>
      cases found : live.catalog.registry? model with
      | none =>
        simp only [notedStep, found]
        exact nothing
      | some registry =>
        obtain ⟨events, grows⟩ :=
          @Registry.notes_notedServe σ backend registry request live.session
        simp only [notedStep, found]
        exact ⟨events, grows.journal, grows.timed, TimedCache.now_of_mem_trace grows.still⟩
    | setClock now => exact ⟨[.cache (.setClock now)], rfl, rfl, single (.setClock now)⟩
    | define model definition => exact nothing
    | setRule model key rule => exact nothing
    | setDefaultRules rules => exact nothing

/-- All that happens to the cache and its clock is noted; it meets no other times than those that
the clock shows in between. -/
theorem exists_noted (start : LiveCatalog (σ × Journal)) (traffic : List Traffic) :
    ∃ events, (notedAfter backend start traffic).journal = start.journal ++ events ∧
      (notedAfter backend start traffic).timed =
        (Journal.cacheActions events).foldl TimedCache.perform start.timed ∧
      ∀ moment, (∀ early, early <+: traffic → (notedAfter backend start early).session.now < moment) →
        ∀ met ∈ trace TimedCache.perform start.timed (Journal.cacheActions events),
          met.1.now < moment := by
  induction traffic generalizing start with
  | nil =>
    exact ⟨[], (List.append_nil _).symm, rfl, fun _ _ _ member => absurd member List.not_mem_nil⟩
  | cons first traffic ih =>
    obtain ⟨events, journal, timed, clock⟩ := @exists_noted_step σ backend start first
    obtain ⟨later, journal', timed', clock'⟩ := ih (start.notedStep backend first)
    refine ⟨events ++ later, ?_, ?_, fun moment before met member => ?_⟩
    · rw [← List.append_assoc, ← journal]
      exact journal'
    · rw [Journal.cacheActions_append, List.foldl_append, ← timed]
      exact timed'
    · rw [Journal.cacheActions_append, trace_append, ← timed, List.mem_append] at member
      rcases member with member | member
      · rw [clock met member]
        exact before [] List.nil_prefix
      · exact clock' moment (fun early start' =>
          before (first :: early) (List.cons_prefix_cons.mpr ⟨rfl, start'⟩)) met member

/-- The cache of a catalog that began with an empty one is what the noted actions make of it. -/
theorem timed_notedAfter (retry : RetryPolicy) (capacity : Nat) (now : Timestamp) (state : σ)
    (traffic : List Traffic) :
    (notedAfter backend (.empty retry capacity now (state, [])) traffic).timed =
      TimedCache.run capacity now (Journal.cacheActions
        (notedAfter backend (.empty retry capacity now (state, [])) traffic).journal) := by
  obtain ⟨events, journal, timed, -⟩ :=
    @exists_noted σ backend (.empty retry capacity now (state, [])) traffic
  rw [timed, journal]
  rfl

end LiveCatalog

end Statbook
