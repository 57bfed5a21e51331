import Mathlib.Data.List.Induction
import Statbook.Proofs.Cache.Fingerprint
import Statbook.Proofs.Registry.Declarations

/-!
# Where answers come from

A catalog answers from its cache whatever was declared since the value was put there. So an
answer tells what the backend said under the definition and the rules of an earlier moment: of
the request that worked the value out, within the time to live that was set then.
-/

namespace Statbook

open Fallible

variable {σ : Type} {backend : Backend σ}

namespace Registry

variable {registry : Registry} {filters : Filters} {definition : Definition} {spec : AggregateSpec}
  {before : Session (σ × List Exchange)} {value : StatValue}

/-- The entry was in the cache before and has not expired, or was worked out since. -/
def Backed (backend : Backend σ) (registry : Registry)
    (before after : Session (σ × List Exchange)) (pair : String × CacheEntry) : Prop :=
  pair ∈ before.cache.store.entries ∧ before.now < pair.2.expiresAt ∨
    ∃ exchanges, after.backend.2 = before.backend.2 ++ exchanges ∧
      Nonempty (WorkedOut backend registry before.now exchanges pair)

/-- An aggregate with a time to live is looked up, and asked for anew if it is not there. -/
theorem evaluate_of_cacheable {session : Session σ}
    (found : registry.definition? definition.name = some definition)
    (kind : definition.kind = .aggregate spec) (cacheable : definition.isCacheable = true) :
    registry.evaluate backend definition.name filters session =
      match session.cache.get session.now
        (fingerprint registry.model.name definition.name filters) with
      | (some value, cache) => (.ok (some value), { session with cache })
      | (none, cache) => registry.askAnew backend filters definition spec { session with cache } := by
  obtain ⟨ttl, timed⟩ := Option.isSome_iff_exists.mp cacheable
  rw [evaluate_of_aggregate found kind, bind_apply]
  unfold cachedValue
  simp only [timed, Session.onCache]
  rcases session.cache.get session.now
    (fingerprint registry.model.name definition.name filters) with ⟨cached, cache⟩
  cases cached <;> rfl

/-- The value of a cacheable aggregate stands in the cache, or the backend gives it. -/
theorem backed_evaluate (found : registry.definition? definition.name = some definition)
    (kind : definition.kind = .aggregate spec) (cacheable : definition.isCacheable = true)
    {reached : Session (σ × List Exchange)} (since : Since backend registry before reached)
    (answered : (registry.evaluate backend.logged definition.name filters reached).1 =
      .ok (some value)) :
    ∃ entry : CacheEntry, entry.value = value ∧ Backed backend registry before
      (registry.evaluate backend.logged definition.name filters reached).2
      (fingerprint registry.model.name definition.name filters, entry) := by
  obtain ⟨clock, exchanges, log, holds⟩ := since
  rw [evaluate_of_cacheable found kind cacheable] at answered ⊢
  rcases got : reached.cache.get reached.now
    (fingerprint registry.model.name definition.name filters) with ⟨cached, cache⟩
  rw [got] at answered
  cases cached with
  | some value' =>
    obtain rfl := Option.some.inj (Except.ok.inj answered)
    obtain ⟨entry, there, live, rfl⟩ := Cache.fst_get_eq_some_iff.mp (congrArg Prod.fst got)
    rw [clock] at live
    refine ⟨entry, rfl, ?_⟩
    rcases holds _ (Store.mem_of_find? there) with old | new
    · exact Or.inl ⟨old, live⟩
    · exact Or.inr ⟨exchanges, log, new⟩
  | none =>
    have kept := holds.get reached.now (fingerprint registry.model.name definition.name filters)
    rw [got] at kept
    have since : Since backend registry before { reached with cache } :=
      ⟨clock, exchanges, log, kept⟩
    obtain ⟨exchange, gives, asked⟩ := (since_askAnew found kind since).2 value answered
    obtain ⟨ttl, timed⟩ := Option.isSome_iff_exists.mp cacheable
    refine ⟨⟨value, before.now.addSaturating (ttl.resolve filters)⟩, rfl, Or.inr ?_⟩
    refine ⟨exchanges ++ [exchange], ?_, ⟨definition, ttl, filters, found, timed, rfl, ?_, ?_⟩⟩
    · rw [← List.append_assoc, ← log]
      exact asked
    · dsimp only
    · exact given_of_gives kind (by simp) gives

/-- An answer to a request for a cacheable aggregate stands in the cache, or the backend gives it. -/
theorem backed_serve {request : Request}
    (asks : request = .evaluate definition.name filters ∨ request = .get definition.name filters)
    (found : registry.definition? definition.name = some definition)
    (kind : definition.kind = .aggregate spec) (cacheable : definition.isCacheable = true)
    (answered : (registry.serve backend.logged request before).1 = .ok (.value (some value))) :
    ∃ entry : CacheEntry, entry.value = value ∧ Backed backend registry before
      (registry.serve backend.logged request before).2
      (fingerprint registry.model.name definition.name filters, entry) := by
  -- A request that is attempted several times ends with an evaluation in a session reached so.
  obtain ⟨reached, since, result⟩ : ∃ reached, Since backend registry before reached ∧
      registry.serve backend.logged request before =
        ((registry.evaluate backend.logged definition.name filters reached).1.map .value,
          (registry.evaluate backend.logged definition.name filters reached).2) := by
    rcases asks with rfl | rfl
    · exact ⟨before, .refl backend registry before, bind_pure_apply _ Answer.value before⟩
    · obtain ⟨-, reached, since, same⟩ := registry.retry.exists_attempt
        (fun _ => keeps_evaluate definition.name filters) (Since.refl backend registry before)
      refine ⟨reached, since, ?_⟩
      have got : registry.get backend.logged definition.name filters before =
          registry.evaluate backend.logged definition.name filters reached := same
      rw [← got]
      exact bind_pure_apply _ Answer.value before
  rw [result] at answered ⊢
  obtain ⟨value', evaluated, same⟩ := map_eq_ok_iff.mp answered
  rw [Answer.value.inj same] at evaluated
  exact backed_evaluate found kind cacheable since evaluated

end Registry

namespace LiveCatalog

/-- Where a cached entry comes from: the request of a run that worked it out, with the registry
that was asked and with what the backend answered during the request. -/
structure Source (backend : Backend σ) (start : LiveCatalog (σ × List Exchange))
    (actions : List CatalogAction) (pair : String × CacheEntry) where
  early : List CatalogAction
  model : String
  request : Request
  late : List CatalogAction
  registry : Registry
  exchanges : List Exchange
  split : actions = early ++ .serve model request :: late
  declared : Catalog.registry? (run backend.logged start early).catalog model = some registry
  logged : (run backend.logged start (early ++ [.serve model request])).session.backend.2 =
    (run backend.logged start early).session.backend.2 ++ exchanges
  worked : registry.WorkedOut backend (run backend.logged start early).session.now exchanges pair

variable {start : LiveCatalog (σ × List Exchange)} {actions : List CatalogAction}
  {pair : String × CacheEntry}

/-- What happens later does not change where an entry comes from. -/
def Source.later (source : Source backend start actions pair) (action : CatalogAction) :
    Source backend start (actions ++ [action]) pair :=
  { source with
    late := source.late ++ [action]
    split := by simp [source.split] }

theorem run_concat (start : LiveCatalog σ) (actions : List CatalogAction) (action : CatalogAction) :
    run backend start (actions ++ [action]) = (run backend start actions).perform backend action :=
  run_append start actions [action]

theorem perform_serve {live : LiveCatalog σ} {model : String} {registry : Registry}
    (found : live.catalog.registry? model = some registry) (request : Request) :
    live.perform backend (.serve model request) =
      { live with session := (registry.serve backend request live.session).2 } := by
  simp only [perform, found]

/-- An entry that a request worked out comes from that request. -/
theorem source_of_workedOut {model : String} {registry : Registry} {request : Request}
    {exchanges : List Exchange}
    (found : Catalog.registry? (run backend.logged start actions).catalog model = some registry)
    (log : (registry.serve backend.logged request
        (run backend.logged start actions).session).2.backend.2 =
      (run backend.logged start actions).session.backend.2 ++ exchanges)
    (worked : registry.WorkedOut backend (run backend.logged start actions).session.now exchanges
      pair) :
    ∃ source : Source backend start (actions ++ [.serve model request]) pair, source.late = [] := by
  refine ⟨⟨actions, model, request, [], registry, exchanges, rfl, found, ?_, worked⟩, rfl⟩
  rw [run_concat, perform_serve found]
  exact log

/-- Every entry of the cache comes from a request of the run. -/
theorem sourced_run (empty : start.session.cache.store.entries = []) :
    (run backend.logged start actions).session.cache.Holds fun pair =>
      Nonempty (Source backend start actions pair) := by
  induction actions using List.reverseRecOn with
  | nil =>
    intro pair member
    rw [show (run backend.logged start []).session.cache.store.entries = [] from empty] at member
    cases member
  | append_singleton actions action ih =>
    have later (pair : String × CacheEntry) :
        Nonempty (Source backend start actions pair) →
          Nonempty (Source backend start (actions ++ [action]) pair) :=
      fun ⟨source⟩ => ⟨source.later action⟩
    cases action with
    | serve model request =>
      cases found : Catalog.registry? (run backend.logged start actions).catalog model with
      | none =>
        rw [run_concat]
        simp only [perform, found]
        exact ih.mono later
      | some registry =>
        obtain ⟨-, exchanges, log, holds⟩ := Registry.since_serve backend registry request
          (run backend.logged start actions).session
        rw [run_concat, perform_serve found]
        refine holds.mono fun pair either => ?_
        rcases either with old | new
        · exact later pair (ih pair old)
        · obtain ⟨worked⟩ := new
          obtain ⟨source, -⟩ := source_of_workedOut found log worked
          exact ⟨source⟩
    | define | setRule | setDefaultRules | setClock =>
      rw [run_concat]
      exact ih.mono later

/-- If the statistic of an entry was not replaced since, the entry was worked out from the
definition and with the rules that are in force at the end. -/
theorem Source.gives_of_stays (source : Source backend start actions pair) {model name : String}
    {registry : Registry} {definition : Definition} {spec : AggregateSpec}
    (declared : Catalog.registry? (run backend.logged start actions).catalog model = some registry)
    (found : registry.definition? name = some definition)
    (kind : definition.kind = .aggregate spec)
    (sameModel : source.registry.model.name = registry.model.name)
    (sameName : source.worked.definition.name = name)
    (stays : ∀ action ∈ source.late, ¬action.Replaces model name) :
    ∃ exchange ∈ source.exchanges, exchange.Gives backend registry spec source.worked.filters
      (run backend.logged start source.early).session.now pair.2.value := by
  have declared' := source.declared
  have same : source.model = model := by
    rw [← Catalog.name_of_found declared', ← Catalog.name_of_found declared, sameModel]
  rw [same] at declared'
  have stays' : ∀ action ∈ .serve source.model source.request :: source.late,
      ¬action.Replaces model name := by
    intro action member
    rcases List.mem_cons.mp member with rfl | member
    · exact id
    · exact stays action member
  obtain ⟨registry', declared'', agrees⟩ :=
    agrees_run backend.logged declared' stays'
  rw [← run_append, ← source.split, declared] at declared''
  obtain rfl := Option.some.inj declared''
  have found' := source.worked.found
  rw [sameName, ← agrees.definition, found] at found'
  have kind' : source.worked.definition.kind = .aggregate spec := by
    rw [← Option.some.inj found', kind]
  obtain ⟨exchange, member, state, built, rest⟩ := source.worked.given spec kind'
  refine ⟨exchange, member, state, ?_, rest⟩
  rw [agrees.buildQuery]
  exact built

/-- Whatever is declared and asked in whatever order: a value that a request for a cacheable
aggregate is answered with was worked out by that request, or by an earlier one for a statistic
with the same fingerprint, whose time to live is not over; and if that statistic was an aggregate
then, the value is what the backend answered to the query of the definition and the rules of that
moment. Where the digests do not collide and nothing was replaced since, these are the definition
and the rules in force. The log that tells so changes nothing about the run. -/
theorem answers_are_sourced (backend : Backend σ) (retry : RetryPolicy) (capacity : Nat)
    (now : Timestamp) (state : σ) (actions : List CatalogAction) (model name : String)
    (filters : Filters) (request : Request) (registry : Registry) (definition : Definition)
    (spec : AggregateSpec) (value : StatValue)
    (asks : request = .evaluate name filters ∨ request = .get name filters)
    (declared : Catalog.registry? (run backend (.empty retry capacity now state) actions).catalog
      model = some registry)
    (found : registry.definition? name = some definition)
    (kind : definition.kind = .aggregate spec) (cacheable : definition.isCacheable = true)
    (answered : (run backend (.empty retry capacity now state) actions).answer? backend model
      request = some (.ok (.value (some value)))) :
    run backend (.empty retry capacity now state) actions =
      (run backend.logged (.empty retry capacity now (state, [])) actions).seen Prod.fst ∧
    ∃ (entry : CacheEntry) (source : Source backend (.empty retry capacity now (state, []))
        (actions ++ [.serve model request]) (fingerprint registry.model.name name filters, entry)),
      entry.value = value ∧
      (source.late = [] ∨
        (run backend (.empty retry capacity now state) actions).session.now < entry.expiresAt) ∧
      ((Blake3.hexDigest (fingerprintBytes source.registry.model.name source.worked.definition.name
            source.worked.filters) =
          Blake3.hexDigest (fingerprintBytes registry.model.name name filters) →
        fingerprintBytes source.registry.model.name source.worked.definition.name
            source.worked.filters =
          fingerprintBytes registry.model.name name filters) →
        (∀ action ∈ source.late, ¬action.Replaces model name) →
          source.worked.filters.kernel = filters.kernel ∧
          ∃ exchange ∈ source.exchanges, exchange.Gives backend registry spec
            source.worked.filters (run backend.logged (.empty retry capacity now (state, []))
              source.early).session.now value) := by
  have plain : run backend (.empty retry capacity now state) actions =
      (run backend.logged (.empty retry capacity now (state, [])) actions).seen Prod.fst :=
    run_seen backend.shows_logged (.empty retry capacity now (state, [])) actions
  refine ⟨plain, ?_⟩
  rw [plain] at declared answered ⊢
  rw [answer?_seen backend.shows_logged] at answered
  generalize begin : (empty retry capacity now (state, []) : LiveCatalog (σ × List Exchange)) =
    start at declared answered ⊢
  have fresh : start.session.cache.store.entries = [] := by
    rw [← begin]
    rfl
  have declared : Catalog.registry? (run backend.logged start actions).catalog model =
      some registry := declared
  obtain rfl := (Registry.definition_of_found found).2
  have served : (registry.serve backend.logged request
      (run backend.logged start actions).session).1 = .ok (.value (some value)) := by
    unfold answer? at answered
    rw [declared] at answered
    exact Option.some.inj answered
  obtain ⟨entry, worth, backed⟩ := Registry.backed_serve asks found kind cacheable served
  obtain ⟨source, timely⟩ : ∃ source : Source backend start (actions ++ [.serve model request])
      (fingerprint registry.model.name definition.name filters, entry),
      source.late = [] ∨ (run backend.logged start actions).session.now < entry.expiresAt := by
    rcases backed with ⟨old, live⟩ | ⟨exchanges, log, ⟨worked⟩⟩
    · obtain ⟨source⟩ := sourced_run fresh _ old
      exact ⟨source.later _, Or.inr live⟩
    · obtain ⟨source, last⟩ := source_of_workedOut declared log worked
      exact ⟨source, Or.inl last⟩
  refine ⟨entry, source, worth, timely, fun collisionFree stays => ?_⟩
  have bytes := collisionFree (hexDigest_eq_of_fingerprint_eq source.worked.key.symm)
  obtain ⟨sameModel, sameName, kernels⟩ := kernel_eq_of_fingerprintBytes_eq bytes
  refine ⟨kernels, ?_⟩
  have declared' : Catalog.registry?
      (run backend.logged start (actions ++ [.serve model request])).catalog model = some registry := by
    rw [run_concat, perform_serve declared]
    exact declared
  rw [← worth]
  exact source.gives_of_stays declared' found kind sameModel sameName stays

/-- A noon from which time goes on. -/
def noon : Timestamp :=
  ⟨⟨2024, 3, 15, by decide, by decide⟩, ⟨43200, 0, by decide, ClockTime.nanos_zero_lt⟩⟩

/-- A script that answers five, then seven. -/
def fiveThenSeven : Script :=
  ⟨[], [.ok (.int 5), .ok (.int 7)], .ok (.int 0), [], []⟩

def priceSum : AggregateSpec :=
  { AggregateSpec.over .sum with column := "price" }

/-- A statistic of the items that is kept for a minute. -/
def keptItems (spec : AggregateSpec) : CatalogAction :=
  .define ⟨"Item", "items"⟩ ⟨"S", .aggregate spec, some (.fixed (.ofSeconds 60))⟩

def counted : List CatalogAction :=
  [keptItems (.over .count), .serve "Item" (.evaluate "S" .empty)]

theorem counted_answers_are_sourced :
    (run Script.backend (.empty .standard 64 noon fiveThenSeven) counted).answer? Script.backend
      "Item" (.get "S" .empty) = some (.ok (.value (some (.int 5)))) ∧
    ∃ (entry : CacheEntry) (source : Source Script.backend
        (.empty .standard 64 noon (fiveThenSeven, [])) (counted ++ [.serve "Item" (.get "S" .empty)])
        (fingerprint "Item" "S" .empty, entry)),
      entry.value = .int 5 ∧ (source.late = [] ∨
        (run Script.backend (.empty .standard 64 noon fiveThenSeven) counted).session.now <
          entry.expiresAt) := by
  have answered : (run Script.backend (.empty .standard 64 noon fiveThenSeven) counted).answer?
      Script.backend "Item" (.get "S" .empty) = some (.ok (.value (some (.int 5)))) := by
    decide +kernel
  obtain ⟨-, entry, source, worth, timely, -⟩ := answers_are_sourced Script.backend .standard 64
    noon fiveThenSeven counted "Item" "S" .empty (.get "S" .empty) _ _ _ (.int 5) (Or.inr rfl) rfl
    rfl rfl rfl answered
  exact ⟨answered, entry, source, worth, timely⟩

/-- The items were counted before the statistic became the sum of their prices: it is answered
with the count, and the backend was never asked for the sum. -/
theorem redefined_answers_count :
    let live := run Script.backend.logged (.empty .standard 64 noon (fiveThenSeven, []))
      (counted ++ [keptItems priceSum])
    live.answer? Script.backend.logged "Item" (.evaluate "S" .empty) =
      some (.ok (.value (some (.int 5)))) ∧
    ∃ registry, live.catalog.registry? "Item" = some registry ∧
      registry.definition? "S" =
        some ⟨"S", .aggregate priceSum, some (.fixed (.ofSeconds 60))⟩ ∧
      ∀ exchange ∈ (live.perform Script.backend.logged
          (.serve "Item" (.evaluate "S" .empty))).session.backend.2,
        ∀ filters now, ¬exchange.Gives Script.backend registry priceSum filters now (.int 5) := by
  refine ⟨by decide +kernel, _, rfl, rfl, ?_⟩
  rintro exchange member filters now ⟨state, -, operation, -⟩
  have asked : (((run Script.backend.logged (.empty .standard 64 noon (fiveThenSeven, []))
      (counted ++ [keptItems priceSum])).perform Script.backend.logged
        (.serve "Item" (.evaluate "S" .empty))).session.backend.2.map fun exchange =>
          exchange.operation) = [.count] := by
    decide +kernel
  have count : exchange.operation ∈ [Operation.count] := by
    rw [← asked]
    exact List.mem_map_of_mem member
  rw [List.mem_singleton.mp count] at operation
  cases operation

end LiveCatalog

end Statbook
