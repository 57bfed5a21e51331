import Statbook.Proofs.Registry.Journal
import Statbook.Proofs.Registry.Sources

/-!
# Fresh values

A statistic that is evaluated anew is not read from the cache: the backend gives its value, which is
cached. From then on the cached value answers, whatever else is asked and done, until its time is
over, its key is settled anew, or as many other keys are used as the cache has room for.
-/

namespace Statbook

open Fallible

variable {σ : Type}

/-- The session after its cache was looked into. -/
def Session.looked (key : String) (session : Session (σ × Journal)) : Session (σ × Journal) :=
  Session.note (.cache (.get key))
    { session with cache := (session.cache.get session.now key).2 }

@[simp]
theorem Session.now_looked (key : String) (session : Session (σ × Journal)) :
    (session.looked key).now = session.now :=
  rfl

@[simp]
theorem Session.inner_looked (key : String) (session : Session (σ × Journal)) :
    (session.looked key).backend.1 = session.backend.1 :=
  rfl

/-- The session after the backend answered. -/
def Session.answered (inner : σ) (exchange : Exchange) (session : Session (σ × Journal)) :
    Session (σ × Journal) :=
  { session with backend := (inner, session.backend.2 ++ [.asked exchange]) }

/-- The session after a value was cached. -/
def Session.stored (key : String) (value : StatValue) (ttl : Duration)
    (session : Session (σ × Journal)) : Session (σ × Journal) :=
  Session.note (.cache (.put key value ttl))
    { session with cache := session.cache.put session.now key value ttl }

namespace Registry

variable {backend : Backend σ} {registry : Registry} {definition : Definition}
  {spec : AggregateSpec} {ttl : Dynamic Duration} {filters : Filters} {value : StatValue}
  {session : Session (σ × Journal)}

theorem notedLook_of_timed (timed : definition.ttl = some ttl) :
    registry.notedLook definition filters session =
      let key := fingerprint registry.model.name definition.name filters
      (.ok (session.cache.get session.now key).1, session.looked key) := by
  unfold notedLook cachedValue
  simp only [timed]
  rfl

theorem notedStore_of_timed (timed : definition.ttl = some ttl) :
    registry.notedStore definition filters value session =
      (.ok (), session.stored (fingerprint registry.model.name definition.name filters) value
        (ttl.resolve filters)) := by
  unfold notedStore cacheValue
  simp only [timed]
  rfl

/-- A cached value answers. -/
theorem notedWith_of_cached {deeper : Option (Evaluator (σ × Journal))}
    (found : registry.definition? definition.name = some definition)
    (timed : definition.ttl = some ttl)
    (cached : (session.cache.get session.now
      (fingerprint registry.model.name definition.name filters)).1 = some value) :
    registry.notedWith backend filters deeper definition.name session =
      (.ok (some value), session.looked (fingerprint registry.model.name definition.name filters)) := by
  unfold notedWith
  simp only [found]
  rw [bind_apply, notedLook_of_timed timed]
  simp only [cached]
  rfl

/-- Without a cached value the value is worked out and cached. -/
theorem notedWith_of_uncached {deeper : Option (Evaluator (σ × Journal))}
    {reached : Session (σ × Journal)}
    (found : registry.definition? definition.name = some definition)
    (looked : registry.notedLook definition filters session = (.ok none, reached)) :
    registry.notedWith backend filters deeper definition.name session =
      match registry.notedWork backend filters deeper definition reached with
      | (.error error, reached) => (.error error, reached)
      | (.ok value, reached) =>
        (.ok (some value), (registry.notedStore definition filters value reached).2) := by
  unfold notedWith
  simp only [found]
  rw [bind_apply, looked]
  simp only [bind_apply]
  rcases registry.notedWork backend filters deeper definition reached with ⟨result, worked⟩
  cases result with
  | error error => rfl
  | ok value =>
    simp only
    unfold notedStore cacheValue
    cases definition.ttl <;> rfl

theorem notedWork_of_aggregate (deeper : Option (Evaluator (σ × Journal)))
    (kind : definition.kind = .aggregate spec) :
    registry.notedWork backend filters deeper definition =
      registry.askBackend backend.noted filters spec := by
  unfold notedWork workOut
  simp only [kind]
  rfl

theorem askBackend_noted (spec : AggregateSpec) (session : Session (σ × Journal)) :
    registry.askBackend backend.noted filters spec session =
      match registry.buildQuery backend spec filters session.now session.backend.1 with
      | .error error => (.error error, session)
      | .ok query =>
        let answer := backend.aggregate query spec.operation spec.column session.backend.1
        (answer.1, session.answered answer.2 ⟨⟨query, spec.operation, spec.column⟩, answer.1⟩) := by
  rw [askBackend_apply]
  have same : registry.buildQuery backend.noted spec filters session.now session.backend =
      registry.buildQuery backend spec filters session.now session.backend.1 := rfl
  rw [same]
  cases registry.buildQuery backend spec filters session.now session.backend.1 <;> rfl

/-- Without a cached value the backend is asked, if there is a query to ask for. -/
theorem notedEvaluate_of_uncached (found : registry.definition? definition.name = some definition)
    (kind : definition.kind = .aggregate spec) (timed : definition.ttl = some ttl)
    (uncached : (session.cache.get session.now
      (fingerprint registry.model.name definition.name filters)).1 = none) :
    let key := fingerprint registry.model.name definition.name filters
    registry.notedEvaluate backend definition.name filters session =
      match registry.buildQuery backend spec filters session.now session.backend.1 with
      | .error error => (.error error, session.looked key)
      | .ok query =>
        let answer := backend.aggregate query spec.operation spec.column session.backend.1
        let asked := (session.looked key).answered answer.2
          ⟨⟨query, spec.operation, spec.column⟩, answer.1⟩
        match answer.1 with
        | .error error => (.error error, asked)
        | .ok value => (.ok (some value), asked.stored key value (ttl.resolve filters)) := by
  have look : registry.notedLook definition filters session =
      (.ok none, session.looked (fingerprint registry.model.name definition.name filters)) := by
    simp only [notedLook_of_timed timed, uncached]
  have worked : registry.notedEvaluate backend definition.name filters session = _ :=
    notedWith_of_uncached found look
  rw [worked, notedWork_of_aggregate _ kind, askBackend_noted]
  simp only [Session.now_looked, Session.inner_looked]
  cases registry.buildQuery backend spec filters session.now session.backend.1 with
  | error error => rfl
  | ok query =>
    cases answer : (backend.aggregate query spec.operation spec.column session.backend.1).1 with
    | error error => simp only [answer]
    | ok value => simp only [answer, notedStore_of_timed timed]

/-- The events of an evaluation that reached the backend: its last answer gave the value, which was
cached at the end, and there were few answers before. -/
def Renews (backend : Backend σ) (registry : Registry) (spec : AggregateSpec) (filters : Filters)
    (now : Timestamp) (put : CacheAction) (attempts : Nat) (value : StatValue) (events : Journal) :
    Prop :=
  ∃ earlier last reads, Journal.exchanges events = earlier ++ [last] ∧
    last.Gives backend registry spec filters now value ∧ earlier.length < attempts ∧
    Journal.cacheActions events = reads ++ [put]

theorem Renews.after {now : Timestamp} {put : CacheAction} {attempts : Nat} {events : Journal}
    (renews : registry.Renews backend spec filters now put attempts value events) {first : Journal}
    (few : (Journal.exchanges first).length ≤ 1) :
    registry.Renews backend spec filters now put (attempts + 1) value (first ++ events) := by
  obtain ⟨earlier, last, reads, exchanges, gives, fewer, cached⟩ := renews
  refine ⟨Journal.exchanges first ++ earlier, last, Journal.cacheActions first ++ reads, ?_, gives,
    ?_, ?_⟩
  · rw [Journal.exchanges_append, exchanges, List.append_assoc]
  · rw [List.length_append]
    omega
  · rw [Journal.cacheActions_append, cached, List.append_assoc]

/-- Without a cached value an evaluation fails and leaves none, or the backend gives its value. -/
theorem renews_or_fails (found : registry.definition? definition.name = some definition)
    (kind : definition.kind = .aggregate spec) (timed : definition.ttl = some ttl)
    (uncached : (session.cache.get session.now
      (fingerprint registry.model.name definition.name filters)).1 = none) :
    let key := fingerprint registry.model.name definition.name filters
    let answered := registry.notedEvaluate backend definition.name filters session
    ∃ events, answered.2.backend.2 = session.backend.2 ++ events ∧
      ((∃ value, answered.1 = .ok (some value) ∧ registry.Renews backend spec filters session.now
          (.put key value (ttl.resolve filters)) 1 value events) ∨
        (∃ error, answered.1 = .error error) ∧ answered.2.now = session.now ∧
          (answered.2.cache.get session.now key).1 = none ∧ (Journal.exchanges events).length ≤ 1) := by
  intro key answered
  have uncached' : ((session.looked key).cache.get session.now key).1 = none :=
    (Cache.fst_get_get session.cache session.now key key).trans uncached
  have evaluated : answered = _ := notedEvaluate_of_uncached found kind timed uncached
  cases built : registry.buildQuery backend spec filters session.now session.backend.1 with
  | error error =>
    simp only [built] at evaluated
    rw [evaluated]
    exact ⟨[.cache (.get key)], rfl, .inr ⟨⟨error, rfl⟩, rfl, uncached', Nat.zero_le 1⟩⟩
  | ok query =>
    rcases answer : backend.aggregate query spec.operation spec.column session.backend.1 with
      ⟨result, inner⟩
    simp only [built, answer] at evaluated
    rw [evaluated]
    let exchange : Exchange := ⟨⟨query, spec.operation, spec.column⟩, result⟩
    have journal : ((session.looked key).answered inner exchange).backend.2 =
        session.backend.2 ++ [.cache (.get key), .asked exchange] :=
      List.append_assoc ..
    cases result with
    | error error =>
      exact ⟨_, journal, .inr ⟨⟨error, rfl⟩, rfl, uncached', Nat.le_refl 1⟩⟩
    | ok value =>
      refine ⟨[.cache (.get key), .asked exchange, .cache (.put key value (ttl.resolve filters))],
        ?_, .inl ⟨value, rfl, [], exchange, [.get key], rfl, ?_, Nat.zero_lt_one, rfl⟩⟩
      · show ((session.looked key).answered inner exchange).backend.2 ++ [_] = _
        rw [journal, List.append_assoc]
        rfl
      · exact ⟨session.backend.1, built, rfl, rfl, rfl⟩

/-- Without a cached value the value that attempts end with is given by the backend, in as many
answers as there are attempts at most. -/
theorem renews_attemptFrom (found : registry.definition? definition.name = some definition)
    (kind : definition.kind = .aggregate spec) (timed : definition.ttl = some ttl)
    (uncached : (session.cache.get session.now
      (fingerprint registry.model.name definition.name filters)).1 = none)
    (attempt further : Nat)
    (answered : (registry.retry.attemptFrom
        (fun _ => registry.notedEvaluate backend definition.name filters) attempt further
        session).1 = .ok (some value)) :
    ∃ events, (registry.retry.attemptFrom
        (fun _ => registry.notedEvaluate backend definition.name filters) attempt further
        session).2.backend.2 = session.backend.2 ++ events ∧
      registry.Renews backend spec filters session.now
        (.put (fingerprint registry.model.name definition.name filters) value
          (ttl.resolve filters)) (further + 1) value events := by
  induction further generalizing attempt session with
  | zero =>
    obtain ⟨events, journal, renews | ⟨⟨error, failed⟩, -⟩⟩ :=
      @renews_or_fails _ backend _ _ _ _ _ session found kind timed uncached
    · obtain ⟨value', same, renews⟩ := renews
      obtain rfl := Option.some.inj (Except.ok.inj (same.symm.trans answered))
      exact ⟨events, journal, renews⟩
    · cases failed.symm.trans answered
  | succ further ih =>
    obtain ⟨events, journal, either⟩ :=
      @renews_or_fails _ backend _ _ _ _ _ session found kind timed uncached
    rw [RetryPolicy.attemptFrom_succ] at answered ⊢
    rcases h : registry.notedEvaluate backend definition.name filters session with ⟨result, reached⟩
    rw [h] at journal either answered
    cases result with
    | ok answer =>
      obtain rfl : answer = some value := Except.ok.inj answered
      rcases either with ⟨value', same, renews⟩ | ⟨⟨error, failed⟩, -⟩
      · obtain rfl := Option.some.inj (Except.ok.inj same)
        obtain ⟨earlier, last, reads, exchanges, gives, few, cached⟩ := renews
        exact ⟨events, journal, earlier, last, reads, exchanges, gives, by omega, cached⟩
      · cases failed
    | error error =>
      simp only at answered ⊢
      rcases either with ⟨value', same, -⟩ | ⟨-, clock, uncached', few⟩
      · cases same
      · by_cases worth : registry.retry.isRetryable error = true
        · rw [if_pos worth] at answered ⊢
          rw [← clock] at uncached'
          obtain ⟨later, journal', renews⟩ := ih uncached' (attempt + 1) answered
          refine ⟨events ++ later, ?_, ?_⟩
          · rw [journal', journal, List.append_assoc]
          · rw [clock] at renews
            exact renews.after few
        · rw [if_neg worth] at answered
          cases answered

/-- A value that is asked for anew is given by the backend. -/
theorem renews_notedGetFresh (found : registry.definition? definition.name = some definition)
    (kind : definition.kind = .aggregate spec) (timed : definition.ttl = some ttl)
    (answered : (registry.notedGetFresh backend definition.name filters session).1 =
      .ok (some value)) :
    ∃ events, (registry.notedGetFresh backend definition.name filters session).2.backend.2 =
        session.backend.2 ++ events ∧
      registry.Renews backend spec filters session.now
        (.put (fingerprint registry.model.name definition.name filters) value
          (ttl.resolve filters)) (max 1 registry.retry.maxAttempts.toNat) value events := by
  let key := fingerprint registry.model.name definition.name filters
  let dropped : Session (σ × Journal) := Session.note (.cache (.invalidate key))
    { session with cache := session.cache.invalidate key }
  have unfolded : registry.notedGetFresh backend definition.name filters session =
      registry.notedGet backend definition.name filters dropped := by
    unfold notedGetFresh
    rw [bind_apply]
    rfl
  rw [unfolded] at answered ⊢
  have absent : dropped.cache.store.find? key = none := Store.find?_delete_self _ key
  have uncached : (dropped.cache.get dropped.now key).1 = none := by
    rw [Cache.get_of_absent absent]
  obtain ⟨events, journal, earlier, last, reads, exchanges, gives, few, cached⟩ :=
    renews_attemptFrom found kind timed uncached 1 _ answered
  refine ⟨.cache (.invalidate key) :: events, ?_, earlier, last, .invalidate key :: reads, exchanges,
    gives, ?_, ?_⟩
  · refine journal.trans ?_
    show (session.backend.2 ++ [_]) ++ events = _
    rw [List.append_assoc]
    rfl
  · omega
  · show .invalidate key :: Journal.cacheActions events = _
    rw [cached]
    rfl

/-- A cached value answers the first attempt. -/
theorem attemptFrom_of_cached (found : registry.definition? definition.name = some definition)
    (timed : definition.ttl = some ttl)
    (cached : (session.cache.get session.now
      (fingerprint registry.model.name definition.name filters)).1 = some value)
    (attempt further : Nat) :
    registry.retry.attemptFrom (fun _ => registry.notedEvaluate backend definition.name filters)
        attempt further session =
      (.ok (some value), session.looked (fingerprint registry.model.name definition.name filters)) := by
  have evaluated : registry.notedEvaluate backend definition.name filters session = _ :=
    notedWith_of_cached found timed cached
  cases further with
  | zero => exact evaluated
  | succ further => rw [RetryPolicy.attemptFrom_succ, evaluated]

/-- An evaluation with or without further attempts is one of attempts. -/
theorem exists_attempts {name : String} {request : Request}
    (asked : request = .evaluate name filters ∨ request = .get name filters) :
    ∃ further, registry.notedServe backend request session =
      ((registry.retry.attemptFrom (fun _ => registry.notedEvaluate backend name filters) 1 further
          session).1.map Answer.value,
        (registry.retry.attemptFrom (fun _ => registry.notedEvaluate backend name filters) 1 further
          session).2) := by
  rcases asked with rfl | rfl
  · exact ⟨0, bind_pure_apply (registry.notedEvaluate backend name filters) Answer.value session⟩
  · exact ⟨_, bind_pure_apply (registry.notedGet backend name filters) Answer.value session⟩

end Registry

/-- Whether a statistic of a model is defined anew. -/
def Traffic.Redefines (model name : String) : Traffic → Prop
  | catalog (.define info definition) => info.name = model ∧ definition.name = name
  | catalog (.setRule ..) | catalog (.setDefaultRules _) | catalog (.serve ..)
  | catalog (.setClock _) | cache _ => False

namespace LiveCatalog

variable {backend : Backend σ} {live : LiveCatalog (σ × Journal)} {model name : String}
  {registry : Registry}

/-- A statistic stays defined as it is, unless it is defined anew. -/
theorem definition?_notedStep (found : live.catalog.registry? model = some registry)
    {traffic : Traffic} (stays : ¬traffic.Redefines model name) :
    ∃ registry', Catalog.registry? (live.notedStep backend traffic).catalog model = some registry' ∧
      registry'.definition? name = registry.definition? name := by
  cases traffic with
  | cache action => exact ⟨registry, found, rfl⟩
  | catalog action =>
    have mirrored := congrArg LiveCatalog.catalog
      (@notedStep_seen _ backend live (.catalog action))
    refine ⟨registry.afterAction action, mirrored ▸ registry?_perform backend found action, ?_⟩
    cases action with
    | define info definition =>
      rw [Registry.afterAction]
      split
      · next same =>
        have different : definition.name ≠ name :=
          fun defined => stays ⟨same.symm.trans (Catalog.name_of_found found), defined⟩
        exact Registry.definition?_define_of_ne different
      · rfl
    | setRule info key rule =>
      rw [Registry.afterAction]
      split <;> rfl
    | setDefaultRules rules | serve asked request | setClock now => rfl

theorem definition?_notedAfter (found : live.catalog.registry? model = some registry)
    {traffic : List Traffic} (stays : ∀ one ∈ traffic, ¬one.Redefines model name) :
    ∃ registry', Catalog.registry? (notedAfter backend live traffic).catalog model = some registry' ∧
      registry'.definition? name = registry.definition? name := by
  induction traffic generalizing live registry with
  | nil => exact ⟨registry, found, rfl⟩
  | cons first traffic ih =>
    obtain ⟨registry', found', definition'⟩ :=
      @definition?_notedStep _ backend _ _ _ _ found _ (stays first List.mem_cons_self)
    obtain ⟨registry'', found'', definition''⟩ :=
      ih found' fun one member => stays one (List.mem_cons_of_mem _ member)
    exact ⟨registry'', found'', definition''.trans definition'⟩

/-- What a request is answered with is told by the journal as well. -/
theorem answer?_noted (found : live.catalog.registry? model = some registry) (request : Request) :
    (live.seen Prod.fst).answer? backend model request =
      some (registry.notedServe backend request live.session).1 := by
  simp only [answer?, seen, found, Registry.mirrors_notedServe request live.session]

theorem notedStep_serve (found : live.catalog.registry? model = some registry) (request : Request) :
    live.notedStep backend (.catalog (.serve model request)) =
      { live with session := (registry.notedServe backend request live.session).2 } := by
  simp only [notedStep, found]

/-- A value that a statistic is evaluated anew to is given by the backend and cached at the end. -/
theorem served_anew {filters : Filters} {definition : Definition} {spec : AggregateSpec}
    {ttl : Dynamic Duration} {value : StatValue}
    (declared : live.catalog.registry? registry.model.name = some registry)
    (found : registry.definition? definition.name = some definition)
    (kind : definition.kind = .aggregate spec) (timed : definition.ttl = some ttl)
    (answered : (live.seen Prod.fst).answer? backend registry.model.name
      (.getFresh definition.name filters) = some (.ok (.value (some value)))) :
    let fresh := live.notedStep backend
      (.catalog (.serve registry.model.name (.getFresh definition.name filters)))
    fresh.catalog = live.catalog ∧ fresh.session.now = live.session.now ∧
      ∃ events, fresh.journal = live.journal ++ events ∧
        registry.Renews backend spec filters live.session.now
          (.put (fingerprint registry.model.name definition.name filters) value
            (ttl.resolve filters)) (max 1 registry.retry.maxAttempts.toNat) value events := by
  intro fresh
  have served : fresh = { live with session :=
      (registry.notedServe backend (.getFresh definition.name filters) live.session).2 } :=
    notedStep_serve declared _
  have serves : registry.notedServe backend (.getFresh definition.name filters) live.session =
      ((registry.notedGetFresh backend definition.name filters live.session).1.map Answer.value,
        (registry.notedGetFresh backend definition.name filters live.session).2) :=
    bind_pure_apply _ Answer.value live.session
  obtain ⟨_, grows⟩ := @Registry.notes_notedServe _ backend registry
    (.getFresh definition.name filters) live.session
  rw [answer?_noted declared, serves] at answered
  obtain ⟨value', fetched, same⟩ := map_eq_ok_iff.mp (Option.some.inj answered)
  rw [Answer.value.inj same] at fetched
  rw [served]
  refine ⟨rfl, grows.now, ?_⟩
  rw [serves]
  exact Registry.renews_notedGetFresh found kind timed fetched

/-- A cached value is served, and the cache is read for it. -/
theorem served_from_cache {name : String} {filters : Filters} {request : Request}
    {definition : Definition} {ttl : Dynamic Duration} {value : StatValue}
    (declared : live.catalog.registry? model = some registry)
    (found : registry.definition? name = some definition) (timed : definition.ttl = some ttl)
    (asked : request = .evaluate name filters ∨ request = .get name filters)
    (cached : (live.session.cache.get live.session.now (fingerprint model name filters)).1 =
      some value) :
    (live.seen Prod.fst).answer? backend model request = some (.ok (.value (some value))) ∧
      (live.notedStep backend (.catalog (.serve model request))).journal =
        live.journal ++ [.cache (.get (fingerprint model name filters))] := by
  obtain rfl : registry.model.name = model := Catalog.name_of_found declared
  obtain rfl : definition.name = name := (Registry.definition_of_found found).2
  obtain ⟨further, serves⟩ := @Registry.exists_attempts _ backend registry filters live.session
    definition.name request asked
  rw [Registry.attemptFrom_of_cached found timed cached 1 further] at serves
  constructor
  · rw [answer?_noted declared, serves]
    rfl
  · rw [notedStep_serve declared, serves]
    rfl

/-- What was cached last is read from the cache, as long as the clock stays before the end of its
time, its key is not settled otherwise, and few other keys are used. -/
theorem read_of_held (retry : RetryPolicy) (capacity : Nat) (now : Timestamp) (state : σ)
    {early late : List Traffic} {key : String} {value : StatValue} {ttl : Duration}
    {reads : List CacheAction} {events : Journal} {stored reached : LiveCatalog (σ × Journal)}
    (isStored : stored = notedAfter backend (empty retry capacity now (state, [])) early)
    (put : Journal.cacheActions stored.journal = reads ++ [.put key value ttl])
    (isReached : reached = notedAfter backend stored late)
    (inTime : ∀ part, part <+: late →
      (notedAfter backend stored part).session.now < stored.session.now.addSaturating ttl)
    (journal : reached.journal = stored.journal ++ events)
    (unsettled : ∀ action ∈ Journal.cacheActions events, ¬action.Settles key)
    (few : (Store.usedSince capacity
      (TimedCache.storeHistory capacity now (Journal.cacheActions reached.journal)) key).length <
        max capacity 1) :
    (reached.session.cache.get reached.session.now key).1 = some value := by
  have timed : stored.timed = TimedCache.run capacity now (reads ++ [.put key value ttl]) := by
    rw [← put, isStored]
    exact timed_notedAfter retry capacity now state early
  have clock : stored.session.now = (TimedCache.run capacity now reads).now := by
    show stored.timed.now = _
    rw [timed, TimedCache.run_concat]
    rfl
  have history : Journal.cacheActions reached.journal =
      reads ++ .put key value ttl :: Journal.cacheActions events := by
    rw [journal, Journal.cacheActions_append, put, List.append_assoc]
    rfl
  have timed' : reached.timed =
      TimedCache.run capacity now (reads ++ .put key value ttl :: Journal.cacheActions events) := by
    rw [← history, isReached, isStored, ← notedAfter_append]
    exact timed_notedAfter retry capacity now state (early ++ late)
  obtain ⟨events', journal', -, met⟩ := @exists_noted _ backend stored late
  obtain rfl : events' = events := by
    rw [← isReached, journal] at journal'
    exact (List.append_cancel_left journal').symm
  have atEnd := inTime late (List.prefix_refl late)
  have timely := met _ inTime
  rw [timed, clock] at timely
  rw [← isReached, clock] at atEnd
  rw [history] at few
  have answer := TimedCache.answer_of_held capacity now reads key value ttl _ unsettled timely
    (by rw [← timed']; exact atEnd) few
  rw [← timed'] at answer
  exact answer

/-- A statistic that is evaluated anew with a time to live is answered with the last answer that the
backend gave during that request, after as many attempts as the policy allows at most. From then on
the value is read from the cache under all filters that constrain the same, and the backend is not
asked: as long as the clock stays before the end of its time, the statistic is not defined anew, its
key is not settled otherwise, and fewer other keys are used since its last use than there is room
for. The journal that tells so changes nothing about what happens. -/
theorem fresh_value_is_held (backend : Backend σ) (retry : RetryPolicy) (capacity : Nat)
    (now : Timestamp) (state : σ) (early : List Traffic) (model name : String) (filters : Filters)
    (registry : Registry) (definition : Definition) (spec : AggregateSpec) (ttl : Dynamic Duration)
    (value : StatValue)
    (declared : Catalog.registry? ((empty retry capacity now state).after backend early).catalog
      model = some registry)
    (found : registry.definition? name = some definition) (kind : definition.kind = .aggregate spec)
    (timed : definition.ttl = some ttl)
    (answered : ((empty retry capacity now state).after backend early).answer? backend model
      (.getFresh name filters) = some (.ok (.value (some value)))) :
    let key := fingerprint model name filters
    let before := notedAfter backend (empty retry capacity now (state, [])) early
    let fresh := before.notedStep backend (.catalog (.serve model (.getFresh name filters)))
    let expires := before.session.now.addSaturating (ttl.resolve filters)
    (∃ events earlier last, fresh.journal = before.journal ++ events ∧
      Journal.exchanges events = earlier ++ [last] ∧
      last.Gives backend registry spec filters before.session.now value ∧
      earlier.length + 1 ≤ max 1 registry.retry.maxAttempts.toNat) ∧
    ∀ (late : List Traffic) (filters' : Filters) (events : Journal),
      let reached := notedAfter backend fresh late
      (empty retry capacity now state).after backend
          (early ++ .catalog (.serve model (.getFresh name filters)) :: late) =
        reached.seen Prod.fst ∧
      (filters'.effective = filters.effective →
        (∀ traffic ∈ late, ¬traffic.Redefines model name) →
        (∀ part, part <+: late → (notedAfter backend fresh part).session.now < expires) →
        reached.journal = fresh.journal ++ events →
        (∀ action ∈ Journal.cacheActions events, ¬action.Settles key) →
        (Store.usedSince capacity
          (TimedCache.storeHistory capacity now (Journal.cacheActions reached.journal)) key).length <
            max capacity 1 →
        (reached.seen Prod.fst).answer? backend model (.get name filters') =
            some (.ok (.value (some value))) ∧
          (reached.notedStep backend (.catalog (.serve model (.get name filters')))).journal =
            reached.journal ++ [.cache (.get key)]) := by
  intro key before fresh expires
  have plain (traffic : List Traffic) : (empty retry capacity now state).after backend traffic =
      (notedAfter backend (empty retry capacity now (state, [])) traffic).seen Prod.fst :=
    notedAfter_seen (empty retry capacity now (state, [])) traffic
  rw [plain] at declared answered
  have declared : before.catalog.registry? model = some registry := declared
  obtain rfl : registry.model.name = model := Catalog.name_of_found declared
  obtain rfl : definition.name = name := (Registry.definition_of_found found).2
  obtain ⟨catalog, clock, events, journal, earlier, last, reads, exchanges, gives, few, cached⟩ :
      fresh.catalog = before.catalog ∧ fresh.session.now = before.session.now ∧ _ :=
    served_anew declared found kind timed answered
  refine ⟨⟨events, earlier, last, journal, exchanges, gives, few⟩, ?_⟩
  intro late filters' later reached
  have together : notedAfter backend (empty retry capacity now (state, []))
      (early ++ .catalog (.serve registry.model.name (.getFresh definition.name filters)) :: late) =
        reached :=
    notedAfter_append _ early _
  refine ⟨by rw [plain, together], fun same stays inTime journal' unsettled few' => ?_⟩
  have put : Journal.cacheActions fresh.journal = Journal.cacheActions before.journal ++ reads ++
      [.put key value (ttl.resolve filters)] := by
    rw [journal, Journal.cacheActions_append, cached, List.append_assoc]
  have inTime : ∀ part, part <+: late → (notedAfter backend fresh part).session.now <
      fresh.session.now.addSaturating (ttl.resolve filters) := by
    rw [clock]
    exact inTime
  have isFresh : fresh = notedAfter backend (empty retry capacity now (state, []))
      (early ++ [.catalog (.serve registry.model.name (.getFresh definition.name filters))]) := by
    rw [notedAfter_append]
    rfl
  have read := read_of_held retry capacity now state isFresh put rfl inTime journal' unsettled few'
  have kernels : filters'.kernel = filters.kernel := by rw [Filters.kernel_eq_iff, same]
  have fresh' : Catalog.registry? fresh.catalog registry.model.name = some registry := by
    rw [catalog]
    exact declared
  obtain ⟨registry', declared', definition'⟩ :=
    @definition?_notedAfter _ backend _ _ _ _ fresh' _ stays
  have key' : fingerprint registry.model.name definition.name filters' = key :=
    fingerprint_eq_of_kernel_eq _ _ kernels
  rw [← key'] at read
  rw [← key']
  exact served_from_cache declared' (definition'.trans found) timed (.inr rfl) read

/-- A script that fails once in a way that is worth another attempt, then answers five. -/
def failureThenFive : Script :=
  ⟨[], [.error (.backend ⟨.serialization, "could not serialize"⟩), .ok (.int 5)], .ok (.int 0), [], []⟩

/-- Half a minute past noon. -/
def shortlyAfterNoon : Timestamp :=
  noon.addSaturating (.ofSeconds 30)

/-- A team that is not given. -/
def anyTeam : Filters :=
  Filters.empty.insert "team" .null

/-- The second attempt counts five items, and half a minute later five is read from the cache. -/
theorem retried_count_is_held :
    let start := empty .standard 64 noon failureThenFive
    let defined := Traffic.catalog (keptItems (.over .count))
    let fresh := Traffic.catalog (.serve "Item" (.getFresh "S" .empty))
    let later := Traffic.catalog (.setClock shortlyAfterNoon)
    (start.after Script.backend [defined]).answer? Script.backend "Item" (.getFresh "S" .empty) =
        some (.ok (.value (some (.int 5)))) ∧
      (start.after Script.backend [defined, fresh, later]).answer? Script.backend "Item"
        (.get "S" anyTeam) = some (.ok (.value (some (.int 5)))) := by
  intro start defined fresh later
  have answered : (start.after Script.backend [defined]).answer? Script.backend "Item"
      (.getFresh "S" .empty) = some (.ok (.value (some (.int 5)))) := by
    decide +kernel
  obtain ⟨-, held⟩ := fresh_value_is_held Script.backend .standard 64 noon failureThenFive [defined]
    "Item" "S" .empty _ _ _ _ (.int 5) rfl rfl rfl rfl answered
  obtain ⟨same, read⟩ := held [later] anyTeam [.cache (.setClock shortlyAfterNoon)]
  refine ⟨answered, ?_⟩
  have reached : start.after Script.backend [defined, fresh, later] = _ := same
  rw [reached]
  refine (read rfl ?_ ?_ rfl ?_ (by decide +kernel)).1
  · intro traffic member redefines
    obtain rfl := List.mem_singleton.mp member
    exact redefines
  · intro part start'
    rcases List.prefix_cons_iff.mp start' with rfl | ⟨rest, rfl, short⟩
    · decide +kernel
    · obtain rfl := List.prefix_nil.mp short
      decide +kernel
  · intro action member settles
    obtain rfl := List.mem_singleton.mp member
    exact settles

end LiveCatalog

end Statbook
