import Statbook.Proofs.Calendar.Elapsed
import Statbook.Proofs.Registry.Freshness

/-!
# Values without a lifetime

The time of a value that is cached without a lifetime is over at the moment it is put. So it is read
from the cache exactly while the clock shows an earlier time than it did then, which it only does
once it was set back.
-/

namespace Statbook

open Fallible

variable {σ : Type}

namespace TimedCache

variable {key : String} {value : StatValue} {ttl : Duration}

/-- An entry that nothing settled since a value was put without a lifetime holds that value, and its
time was over then. -/
theorem eq_of_put_without_lifetime (capacity : Nat) (start : Timestamp)
    {early late : List CacheAction} {entry : CacheEntry} (zero : ttl.nanos = 0)
    (unsettled : ∀ action ∈ late, ¬action.Settles key)
    (found : (run capacity start (early ++ .put key value ttl :: late)).cache.store.find? key =
      some entry) :
    entry = ⟨value, (run capacity start early).now⟩ := by
  have put : (run capacity start (early ++ [.put key value ttl])).cache.store.find? key =
      some ⟨value, (run capacity start early).now⟩ := by
    rw [run_concat, ← Timestamp.addSaturating_of_zero zero (run capacity start early).now]
    exact Store.find?_write_self _ key _
  have split : run capacity start (early ++ .put key value ttl :: late) =
      late.foldl perform (run capacity start (early ++ [.put key value ttl])) := by
    rw [List.append_cons, run, List.foldl_append]
    rfl
  rw [split] at found
  exact Option.some.inj ((find?_of_foldl unsettled found).symm.trans put)

end TimedCache

namespace Registry

variable {backend : Backend σ} {registry : Registry} {definition : Definition}
  {spec : AggregateSpec} {lifetime : Dynamic Duration} {filters : Filters}
  {session : Session (σ × Journal)}

/-- Where there is a query to ask, the first thing that is asked is that query. -/
def Asks (backend : Backend σ) (registry : Registry) (spec : AggregateSpec) (filters : Filters)
    (session : Session (σ × Journal)) (events : Journal) : Prop :=
  ∀ query, registry.buildQuery backend spec filters session.now session.backend.1 = .ok query →
    ∃ answer rest, Journal.exchanges events = ⟨⟨query, spec.operation, spec.column⟩, answer⟩ :: rest

/-- Attempts go on after the first one. -/
theorem exists_events_after_attempt (attempt further : Nat)
    (run : Nat → Fallible (Session (σ × Journal)) (Option StatValue))
    (each : ∀ attempt, Session.Notes maxDerivationDepth (run attempt)) :
    ∃ events, (registry.retry.attemptFrom run attempt further session).2.backend.2 =
      (run attempt session).2.backend.2 ++ events := by
  cases further with
  | zero => exact ⟨[], (List.append_nil _).symm⟩
  | succ further =>
    rw [RetryPolicy.attemptFrom_succ]
    rcases run attempt session with ⟨result, reached⟩
    cases result with
    | ok value => exact ⟨[], (List.append_nil _).symm⟩
    | error error =>
      simp only
      split
      · obtain ⟨events, grows⟩ :=
          Session.Notes.attempts registry.retry each (attempt + 1) further reached
        exact ⟨events, grows.journal⟩
      · exact ⟨[], (List.append_nil _).symm⟩

theorem asks_attemptFrom (found : registry.definition? definition.name = some definition)
    (kind : definition.kind = .aggregate spec) (timed : definition.ttl = some lifetime)
    (uncached : (session.cache.get session.now
      (fingerprint registry.model.name definition.name filters)).1 = none)
    (attempt further : Nat) :
    ∃ events, (registry.retry.attemptFrom
        (fun _ => registry.notedEvaluate backend definition.name filters) attempt further
        session).2.backend.2 = session.backend.2 ++ events ∧
      registry.Asks backend spec filters session events := by
  have evaluated := @notedEvaluate_of_uncached _ backend _ _ _ _ _ session found kind timed uncached
  obtain ⟨later, journal⟩ := @exists_events_after_attempt _ registry session attempt further
    (fun _ => registry.notedEvaluate backend definition.name filters)
    (fun _ => notes_notedAt maxDerivationDepth definition.name)
  rw [journal, evaluated]
  cases built : registry.buildQuery backend spec filters session.now session.backend.1 with
  | error error =>
    exact ⟨_, List.append_assoc .., fun query builds => by rw [built] at builds; cases builds⟩
  | ok query =>
    rcases answer : backend.aggregate query spec.operation spec.column session.backend.1 with
      ⟨result, inner⟩
    have first (more : Journal) : Asks backend registry spec filters session
        (.cache (.get (fingerprint registry.model.name definition.name filters)) ::
          .asked ⟨⟨query, spec.operation, spec.column⟩, result⟩ :: more) := by
      intro query' builds
      rw [built] at builds
      cases builds
      exact ⟨result, _, rfl⟩
    cases result with
    | error error =>
      refine ⟨_, ?_, first later⟩
      simp [Session.answered, Session.looked, Session.note, answer]
    | ok value =>
      refine ⟨_, ?_, first (.cache (.put (fingerprint registry.model.name definition.name filters)
        value (lifetime.resolve filters)) :: later)⟩
      simp [Session.answered, Session.looked, Session.stored, Session.note, answer]

end Registry

namespace LiveCatalog

open Registry

/-- Without a cached value the backend is asked: first for the query that is built, if there is one,
and a value that is answered is its last answer. -/
theorem asked_without_cached {live : LiveCatalog (σ × Journal)} {backend : Backend σ}
    {registry : Registry} {filters : Filters} {request : Request}
    {definition : Definition} {spec : AggregateSpec} {lifetime : Dynamic Duration}
    (declared : live.catalog.registry? registry.model.name = some registry)
    (found : registry.definition? definition.name = some definition)
    (kind : definition.kind = .aggregate spec) (timed : definition.ttl = some lifetime)
    (asked : request = .evaluate definition.name filters ∨ request = .get definition.name filters)
    (uncached : (live.session.cache.get live.session.now
      (fingerprint registry.model.name definition.name filters)).1 = none) :
    ∃ events, (live.notedStep backend (.catalog (.serve registry.model.name request))).journal =
        live.journal ++ events ∧
      registry.Asks backend spec filters live.session events ∧
      ∀ given, (live.seen Prod.fst).answer? backend registry.model.name request =
          some (.ok (.value (some given))) →
        ∃ earlier last, Journal.exchanges events = earlier ++ [last] ∧
          last.Gives backend registry spec filters live.session.now given := by
  obtain ⟨further, serves⟩ := @exists_attempts _ backend registry filters live.session
    definition.name request asked
  obtain ⟨events, journal, asks⟩ :=
    @asks_attemptFrom _ backend _ _ _ _ _ _ found kind timed uncached 1 further
  rw [notedStep_serve declared, answer?_noted declared, serves]
  refine ⟨events, journal, asks, fun given answered => ?_⟩
  obtain ⟨value, evaluated, same⟩ := map_eq_ok_iff.mp (Option.some.inj answered)
  rw [Answer.value.inj same] at evaluated
  obtain ⟨events', journal', earlier, last, -, exchanges, gives, -⟩ :=
    renews_attemptFrom found kind timed uncached 1 further evaluated
  obtain rfl := List.append_cancel_left (journal'.symm.trans journal)
  exact ⟨earlier, last, exchanges, gives⟩

/-- A value that was put into the cache with a lifetime of zero, and that nothing settled since, is
read from the cache if it is still there and the clock shows an earlier time than when it was put.
Otherwise the evaluation asks the backend: first for the query that it builds, if there is one, and
the value that it is answered with, if any, is the last answer of the backend. The journal that
tells so changes nothing about what happens. -/
theorem zero_lifetime_hits_only_earlier (backend : Backend σ) (retry : RetryPolicy) (capacity : Nat)
    (now : Timestamp) (state : σ) (traffic : List Traffic) (model name : String) (filters : Filters)
    (request : Request) (registry : Registry) (definition : Definition) (spec : AggregateSpec)
    (lifetime : Dynamic Duration) (early late : List CacheAction) (value : StatValue)
    (ttl : Duration)
    (declared : Catalog.registry? ((empty retry capacity now state).after backend traffic).catalog
      model = some registry)
    (found : registry.definition? name = some definition) (kind : definition.kind = .aggregate spec)
    (timed : definition.ttl = some lifetime)
    (asked : request = .evaluate name filters ∨ request = .get name filters)
    (put : Journal.cacheActions
        (notedAfter backend (empty retry capacity now (state, [])) traffic).journal =
      early ++ .put (fingerprint model name filters) value ttl :: late)
    (zero : ttl.nanos = 0)
    (unsettled : ∀ action ∈ late, ¬action.Settles (fingerprint model name filters)) :
    let key := fingerprint model name filters
    let reached := notedAfter backend (empty retry capacity now (state, [])) traffic
    let served := reached.notedStep backend (.catalog (.serve model request))
    let stored := (TimedCache.run capacity now early).now
    let held := (reached.session.cache.store.find? key).isSome
    (empty retry capacity now state).after backend traffic = reached.seen Prod.fst ∧
      (held ∧ reached.session.now < stored →
        (reached.seen Prod.fst).answer? backend model request =
            some (.ok (.value (some value))) ∧
          served.journal = reached.journal ++ [.cache (.get key)]) ∧
      (¬(held ∧ reached.session.now < stored) →
        ∃ events, served.journal = reached.journal ++ events ∧
          registry.Asks backend spec filters reached.session events ∧
          ∀ given, (reached.seen Prod.fst).answer? backend model request =
              some (.ok (.value (some given))) →
            ∃ earlier last, Journal.exchanges events = earlier ++ [last] ∧
              last.Gives backend registry spec filters reached.session.now given) := by
  intro key reached served stored held
  have plain : (empty retry capacity now state).after backend traffic = reached.seen Prod.fst :=
    notedAfter_seen (empty retry capacity now (state, [])) traffic
  rw [plain] at declared
  have declared : reached.catalog.registry? model = some registry := declared
  obtain rfl : registry.model.name = model := Catalog.name_of_found declared
  obtain rfl : definition.name = name := (definition_of_found found).2
  have timeline : reached.timed = TimedCache.run capacity now (early ++ .put key value ttl :: late) := by
    rw [← put]
    exact timed_notedAfter retry capacity now state traffic
  have only (entry : CacheEntry) (there : reached.session.cache.store.find? key = some entry) :
      entry = ⟨value, stored⟩ := by
    have there : reached.timed.cache.store.find? key = some entry := there
    rw [timeline] at there
    exact TimedCache.eq_of_put_without_lifetime capacity now zero unsettled there
  refine ⟨plain, fun hit => ?_, fun missed => ?_⟩
  · obtain ⟨entry, there⟩ := Option.isSome_iff_exists.mp hit.1
    obtain rfl := only entry there
    have cached : (reached.session.cache.get reached.session.now key).1 = some value :=
      Cache.fst_get_eq_some_iff.mpr ⟨_, there, hit.2, rfl⟩
    exact served_from_cache declared found timed asked cached
  · have uncached : (reached.session.cache.get reached.session.now key).1 = none := by
      refine Option.eq_none_iff_forall_ne_some.mpr fun given answered => missed ?_
      obtain ⟨entry, there, earlier, -⟩ := Cache.fst_get_eq_some_iff.mp answered
      obtain rfl := only entry there
      exact ⟨Option.isSome_iff_exists.mpr ⟨_, there⟩, earlier⟩
    exact asked_without_cached declared found kind timed asked uncached

/-- The items are counted, and their number is cached with a lifetime of zero. -/
def countedMomentarily : List Traffic :=
  [.catalog (.define ⟨"Item", "items"⟩ ⟨"S", .aggregate (.over .count), some (.fixed .zero)⟩),
    .catalog (.serve "Item" (.evaluate "S" .empty))]

/-- At the moment when five items were counted, they are counted again. -/
theorem counted_again_at_once :
    let reached := notedAfter Script.backend (empty .standard 64 noon (fiveThenSeven, []))
      countedMomentarily
    (reached.seen Prod.fst).answer? Script.backend "Item" (.get "S" .empty) =
        some (.ok (.value (some (.int 7)))) ∧
      ∃ events earlier last, (reached.notedStep Script.backend
          (.catalog (.serve "Item" (.get "S" .empty)))).journal = reached.journal ++ events ∧
        Journal.exchanges events = earlier ++ [last] ∧ last.answer = .ok (.int 7) := by
  intro reached
  have answered : (reached.seen Prod.fst).answer? Script.backend "Item" (.get "S" .empty) =
      some (.ok (.value (some (.int 7)))) := by
    decide +kernel
  have now : ¬reached.session.now < noon := by
    decide +kernel
  obtain ⟨-, -, misses⟩ := zero_lifetime_hits_only_earlier Script.backend .standard 64 noon
    fiveThenSeven countedMomentarily "Item" "S" .empty (.get "S" .empty) _ _ _ _
    [.get (fingerprint "Item" "S" .empty)] [] (.int 5) .zero rfl rfl rfl rfl (.inr rfl) rfl rfl
    (fun action member => absurd member List.not_mem_nil)
  obtain ⟨events, journal, -, gives⟩ := misses fun hit => now hit.2
  obtain ⟨earlier, last, exchanges, -, -, -, -, worth⟩ := gives (.int 7) answered
  exact ⟨answered, events, earlier, last, journal, exchanges, worth⟩

/-- An hour before noon. -/
def anHourEarlier : Timestamp :=
  ⟨noon.date, ⟨39600, 0, by decide, ClockTime.nanos_zero_lt⟩⟩

/-- Five items were counted at noon, and once the clock is set back by an hour five is read from the
cache: the backend is not asked, though it would answer seven. -/
theorem counted_value_is_read_earlier :
    let reached := (empty .standard 64 noon fiveThenSeven).after Script.backend
      (countedMomentarily ++ [.catalog (.setClock anHourEarlier)])
    let served := reached.step Script.backend (.catalog (.serve "Item" (.evaluate "S" .empty)))
    reached.answer? Script.backend "Item" (.evaluate "S" .empty) =
        some (.ok (.value (some (.int 5)))) ∧
      served.session.backend.calls.length = 1 ∧ reached.session.backend.calls.length = 1 := by
  decide +kernel

end LiveCatalog

end Statbook
