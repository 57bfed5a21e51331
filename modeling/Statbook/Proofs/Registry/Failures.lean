import Statbook.Proofs.Cache.Store
import Statbook.Proofs.Filter.Rule
import Statbook.Proofs.Registry.Calls
import Statbook.Proofs.Registry.Sources
import Statbook.Proofs.Retry.Attempts

/-!
# What a failure leaves behind

An evaluation that fails has looked into the cache and found nothing there to answer with. That
lookup is all that it leaves: an entry that had expired is gone and the miss is counted. Every further
attempt is one more miss. Where a scope or a filter is refused, nothing is asked, and that attempt is
the last, unless what refuses is a failure of the database that is worth another attempt.
-/

namespace Statbook

open Fallible

namespace Store

variable {store : Store} {key : String}

theorem others_of_absent (absent : store.find? key = none) : store.others key = store.entries := by
  rw [others, List.filter_eq_self]
  intro pair member
  have different : key ≠ pair.1 := by simpa using List.lookup_eq_none_iff.mp absent pair member
  simpa using different.symm

theorem delete_delete (store : Store) (key : String) :
    (store.delete key).delete key = store.delete key := by
  simp only [delete, others, List.filter_filter, Bool.and_self]

/-- Reading an entry before it is deleted makes no difference. -/
theorem delete_read (store : Store) (key : String) :
    (store.read key).2.delete key = store.delete key := by
  unfold read
  cases store.find? key with
  | none => rfl
  | some entry =>
    have dropped : List.filter (fun pair : String × CacheEntry => pair.1 ≠ key)
        ((key, entry) :: store.others key) = store.others key := by
      rw [List.filter_cons_of_neg (by simp)]
      simp only [others, List.filter_filter, Bool.and_self]
    simp only [delete, others] at dropped ⊢
    rw [dropped]

end Store

namespace Cache

/-- So many lookups of a key found nothing to answer with. An entry under the key had expired and is
gone, every other entry is as it was and in its place, and nothing but misses and that expiration is
counted. -/
structure Missed (now : Timestamp) (key : String) (lookups : Nat) (before after : Cache) : Prop where
  expired : ∀ entry, before.store.find? key = some entry → entry.isExpired now
  store : after.store =
    { before.store with entries := before.store.entries.filter fun pair => pair.1 ≠ key }
  counts : after.counts = { before.counts with
    misses := before.counts.misses + lookups
    expirations := before.counts.expirations + if (before.store.find? key).isSome then 1 else 0 }

variable {now : Timestamp} {key : String} {cache before between after : Cache} {lookups : Nat}

/-- A lookup that finds nothing is a miss. -/
theorem missed_get (nothing : (cache.get now key).1 = none) :
    Missed now key 1 cache (cache.get now key).2 := by
  cases found : cache.store.find? key with
  | none =>
    have same : { cache.store with entries := cache.store.others key } = cache.store := by
      rw [Store.others_of_absent found]
    rw [get_of_absent found]
    refine ⟨?_, same.symm, ?_⟩
    · intro entry found'
      rw [found] at found'
      cases found'
    · simp [found]
  | some entry =>
    by_cases expired : entry.isExpired now
    · rw [get_of_expired found expired]
      refine ⟨?_, Store.delete_read cache.store key, ?_⟩
      · intro entry' found'
        obtain rfl := Option.some.inj (found.symm.trans found')
        exact expired
      · simp [found]
    · rw [get_of_live found (by simpa using expired)] at nothing
      cases nothing

/-- After a miss there is no entry that could expire. -/
theorem Missed.absent (missed : Missed now key lookups before after) :
    after.store.find? key = none := by
  rw [missed.store]
  exact Store.find?_delete_self before.store key

theorem Missed.next (missed : Missed now key lookups before between)
    (again : Missed now key 1 between after) : Missed now key (lookups + 1) before after := by
  refine ⟨missed.expired, ?_, ?_⟩
  · rw [again.store, missed.store]
    exact Store.delete_delete before.store key
  · rw [again.counts, missed.absent, missed.counts]
    simp [Nat.add_assoc]

end Cache

/-- A backend refuses a chain of scopes at one of them. -/
theorem Backend.Chained.exists_refused {σ : Type} {backend : Backend σ} {state : σ}
    {scopes : List String} {query : Query} {outcome : Except StatError Query} {error : StatError}
    (chained : backend.Chained state scopes query outcome) (failed : outcome = .error error) :
    ∃ scope ∈ scopes, ∃ narrowed, backend.applyScope state narrowed scope = .error error := by
  induction chained with
  | nil => cases failed
  | whole _ ih =>
    obtain ⟨scope, member, refused⟩ := ih failed
    exact ⟨scope, List.mem_cons_of_mem _ member, refused⟩
  | refused _ applied =>
    cases failed
    exact ⟨_, List.mem_cons_self, _, applied⟩
  | put _ _ _ ih =>
    obtain ⟨scope, member, refused⟩ := ih failed
    exact ⟨scope, List.mem_cons_of_mem _ member, refused⟩

namespace Registry

open LiveCatalog (noon)

variable {σ : Type} {backend : Backend σ} {registry : Registry} {definition : Definition}
  {spec : AggregateSpec} {filters : Filters} {now : Timestamp}

/-- A query that is refused with a failure of the database is refused for a scope. -/
theorem buildQuery_eq_error {state : σ} {error : StatError}
    (refused : registry.buildQuery backend spec filters now state = .error error) :
    (∀ failure, error ≠ .backend failure) ∨
      ∃ scope ∈ spec.scopes, ∃ query, backend.applyScope state query scope = .error error := by
  have outlines := outlines_buildQuery backend registry spec filters now state
  rw [refused] at outlines
  cases outlines with
  | refused chained => exact .inr (chained.exists_refused rfl)
  | unresolved _ _ failed _ =>
    left
    rintro failure rfl
    rcases FilterRule.resolve_eq_error failed with unknown | ⟨reason, invalid⟩
    · cases unknown
    · cases invalid

/-- What so many failed attempts leave of the cache. A statistic that is not kept in the cache leaves
it alone; one that is has missed it with every attempt. -/
def Spares (registry : Registry) (definition : Definition) (filters : Filters) (now : Timestamp)
    (attempts : Nat) (before after : Cache) : Prop :=
  match definition.ttl with
  | none => after = before
  | some _ => Cache.Missed now (fingerprint registry.model.name definition.name filters) attempts
      before after

theorem Spares.next {attempts : Nat} {before between after : Cache}
    (spares : registry.Spares definition filters now attempts before between)
    (again : registry.Spares definition filters now 1 between after) :
    registry.Spares definition filters now (attempts + 1) before after := by
  unfold Spares at *
  cases ttl : definition.ttl with
  | none =>
    rw [ttl] at spares again
    exact again.trans spares
  | some kept =>
    rw [ttl] at spares again
    exact spares.next again

/-- A lookup that answers nothing spares the cache, and changes nothing else. -/
theorem spares_cachedValue {session after : Session σ}
    (looked : registry.cachedValue definition filters session = (.ok none, after)) :
    registry.Spares definition filters session.now 1 session.cache after.cache ∧
      after = { session with cache := after.cache } := by
  unfold cachedValue at looked
  unfold Spares
  cases ttl : definition.ttl with
  | none =>
    rw [ttl] at looked
    cases looked
    exact ⟨rfl, rfl⟩
  | some kept =>
    rw [ttl] at looked
    obtain ⟨nothing, same⟩ := Prod.mk.inj looked
    cases same
    exact ⟨Cache.missed_get (Except.ok.inj nothing), rfl⟩

/-- Why an attempt at an aggregate failed: its query was refused and nothing was asked, or the query
was asked and the error was the answer. -/
inductive Failed (backend : Backend σ) (registry : Registry) (spec : AggregateSpec)
    (filters : Filters) (before after : Session (σ × List Asked)) (error : StatError) : Prop
  | refused :
      registry.buildQuery backend spec filters before.now before.backend.1 = .error error →
      after.backend = before.backend → Failed backend registry spec filters before after error
  | answered {query : Query} :
      registry.buildQuery backend spec filters before.now before.backend.1 = .ok query →
      backend.aggregate query spec.operation spec.column before.backend.1 =
        (.error error, after.backend.1) →
      after.backend.2 = before.backend.2 ++ [⟨query, spec.operation, spec.column⟩] →
      Failed backend registry spec filters before after error

section Attempts

variable {name : String} {session : Session (σ × List Asked)}

/-- One attempt that fails. -/
theorem failed_of_evaluate (found : registry.definition? name = some definition)
    (kind : definition.kind = .aggregate spec) {error : StatError}
    {after : Session (σ × List Asked)}
    (failed : registry.evaluate backend.recorded name filters session = (.error error, after)) :
    after.now = session.now ∧
      registry.Spares definition filters session.now 1 session.cache after.cache ∧
      Failed backend registry spec filters session after error := by
  rw [evaluate_of_aggregate found kind, bind_apply] at failed
  obtain ⟨cached, cache, looked⟩ := cachedValue_apply registry filters definition session
  rw [looked] at failed
  cases cached with
  | some value => cases failed
  | none =>
    obtain ⟨spares, -⟩ := spares_cachedValue looked
    simp only at failed
    rw [bind_apply, askBackend_recorded] at failed
    simp only at failed
    cases built : registry.buildQuery backend spec filters session.now session.backend.1 with
    | error refusal =>
      rw [built] at failed
      cases failed
      exact ⟨rfl, spares, .refused built rfl⟩
    | ok query =>
      rw [built] at failed
      simp only at failed
      rcases answer : backend.aggregate query spec.operation spec.column session.backend.1 with
        ⟨result, inner⟩
      rw [answer] at failed
      cases result with
      | error refusal =>
        cases failed
        exact ⟨rfl, spares, .answered built answer rfl⟩
      | ok value =>
        simp only at failed
        obtain ⟨cache', stored⟩ := cacheValue_apply registry filters definition value
          (⟨session.now, cache, inner, session.backend.2 ++
            [⟨query, spec.operation, spec.column⟩]⟩ : Session (σ × List Asked))
        rw [bind_apply, stored] at failed
        cases failed

/-- One of several attempts, if it fails. -/
theorem failed_of_outcome (found : registry.definition? name = some definition)
    (kind : definition.kind = .aggregate spec) {made : Nat} {error : StatError}
    (failed : RetryPolicy.outcome (fun _ => registry.evaluate backend.recorded name filters) session
      (made + 1) = .error error) :
    let evaluate := registry.evaluate backend.recorded name filters
    let reached := RetryPolicy.reached (fun _ => evaluate) session
    evaluate (reached made) = (.error error, reached (made + 1)) ∧
      (reached (made + 1)).now = (reached made).now ∧
      registry.Spares definition filters (reached made).now 1 (reached made).cache
        (reached (made + 1)).cache ∧
      Failed backend registry spec filters (reached made) (reached (made + 1)) error := by
  intro evaluate reached
  have ran : evaluate (reached made) = (.error error, reached (made + 1)) :=
    (RetryPolicy.run_reached (fun _ => evaluate) session made).trans (congrArg (·, _) failed)
  exact ⟨ran, failed_of_evaluate found kind ran⟩

/-- Attempts that all fail are as many misses. -/
theorem spares_reached (found : registry.definition? name = some definition)
    (kind : definition.kind = .aggregate spec) (made : Nat)
    (failing : ∀ attempt ≤ made, ∃ error, RetryPolicy.outcome
      (fun _ => registry.evaluate backend.recorded name filters) session (attempt + 1) =
        .error error) :
    let reached := RetryPolicy.reached
      (fun _ => registry.evaluate backend.recorded name filters) session
    (reached (made + 1)).now = session.now ∧
      registry.Spares definition filters session.now (made + 1) session.cache
        (reached (made + 1)).cache := by
  intro reached
  induction made with
  | zero =>
    obtain ⟨error, failed⟩ := failing 0 (Nat.le_refl 0)
    obtain ⟨-, time, spares, -⟩ := failed_of_outcome found kind failed
    exact ⟨time, spares⟩
  | succ made ih =>
    obtain ⟨time, spares⟩ := ih fun attempt counted => failing attempt (Nat.le_succ_of_le counted)
    obtain ⟨error, failed⟩ := failing (made + 1) (Nat.le_refl _)
    obtain ⟨-, time', again, -⟩ := failed_of_outcome found kind failed
    rw [time] at again time'
    exact ⟨time', spares.next again⟩

/-- One of several attempts where the query is refused. -/
theorem refused_of_outcome (found : registry.definition? name = some definition)
    (kind : definition.kind = .aggregate spec) {made : Nat} {error refusal : StatError}
    (failed : RetryPolicy.outcome (fun _ => registry.evaluate backend.recorded name filters) session
      (made + 1) = .error error) :
    let reached := RetryPolicy.reached
      (fun _ => registry.evaluate backend.recorded name filters) session
    registry.buildQuery backend spec filters (reached made).now (reached made).backend.1 =
        .error refusal →
      error = refusal ∧ (reached (made + 1)).backend = (reached made).backend := by
  intro reached refused
  obtain ⟨-, -, -, why⟩ := failed_of_outcome found kind failed
  cases why with
  | refused refused' same => exact ⟨Except.error.inj (refused'.symm.trans refused), same⟩
  | answered built _ _ => cases refused.symm.trans built

/-- Where the query is refused, it is refused with every attempt, and nothing is asked. -/
theorem refused_reached (found : registry.definition? name = some definition)
    (kind : definition.kind = .aggregate spec) {refusal : StatError}
    (refused : registry.buildQuery backend spec filters session.now session.backend.1 =
      .error refusal) (made : Nat)
    (failing : ∀ attempt ≤ made, ∃ error, RetryPolicy.outcome
      (fun _ => registry.evaluate backend.recorded name filters) session (attempt + 1) =
        .error error) :
    RetryPolicy.outcome (fun _ => registry.evaluate backend.recorded name filters) session
        (made + 1) = .error refusal ∧
      (RetryPolicy.reached (fun _ => registry.evaluate backend.recorded name filters) session
        (made + 1)).backend = session.backend := by
  induction made with
  | zero =>
    obtain ⟨error, failed⟩ := failing 0 (Nat.le_refl 0)
    obtain ⟨rfl, same⟩ := refused_of_outcome found kind failed refused
    exact ⟨failed, same⟩
  | succ made ih =>
    have earlier (attempt : Nat) (counted : attempt ≤ made) :=
      failing attempt (Nat.le_succ_of_le counted)
    obtain ⟨-, unasked⟩ := ih earlier
    -- The clock and the backend are still those of the start, so the query is refused again.
    rw [← (spares_reached found kind made earlier).1, ← unasked] at refused
    obtain ⟨error, failed⟩ := failing (made + 1) (Nat.le_refl _)
    obtain ⟨rfl, same⟩ := refused_of_outcome found kind failed refused
    exact ⟨failed, same.trans unasked⟩

end Attempts

/-- A failed evaluation of an aggregate leaves the cache as it was, up to an entry that has expired
under its own key, and counts one miss if the aggregate is kept in the cache. Where failures are
retried, the same holds with one miss for every attempt. An attempt fails with nothing asked or with
the one answer it got, and only after a failure of the database that is worth it another one is made.
Where the query is refused, for a scope or a filter, nothing is asked at all, and one attempt is made
unless the database failed to tell the scope in a way that is worth another. -/
theorem failure_spares_cache (backend : Backend σ) (registry : Registry) (name : String)
    (definition : Definition) (spec : AggregateSpec) (filters : Filters)
    (session : Session (σ × List Asked)) (found : registry.definition? name = some definition)
    (kind : definition.kind = .aggregate spec) :
    let evaluate := registry.evaluate backend.recorded name filters
    let get := registry.get backend.recorded name filters
    let reached := RetryPolicy.reached (fun _ => evaluate) session
    let attempts := (registry.retry.attemptsMade (fun _ => evaluate) session).length
    (registry.evaluate backend name filters session.forget =
        ((evaluate session).1, (evaluate session).2.forget) ∧
      registry.get backend name filters session.forget =
        ((get session).1, (get session).2.forget)) ∧
    (∀ error after, evaluate session = (.error error, after) →
      registry.Spares definition filters session.now 1 session.cache after.cache ∧
      Failed backend registry spec filters session after error) ∧
    (∀ error after, get session = (.error error, after) →
      registry.Spares definition filters session.now attempts session.cache after.cache ∧
      (0 < attempts ∧ reached 0 = session ∧ reached attempts = after) ∧
      (∀ made < attempts, ∃ error',
        evaluate (reached made) = (.error error', reached (made + 1)) ∧
        Failed backend registry spec filters (reached made) (reached (made + 1)) error' ∧
        (registry.retry.Retries error' ∧ made + 1 < attempts ∨
          error' = error ∧ made + 1 = attempts)) ∧
      (registry.retry.Retries error → attempts = max 1 registry.retry.maxAttempts.toNat) ∧
      (∀ refusal, registry.buildQuery backend spec filters session.now session.backend.1 =
          .error refusal →
        refusal = error ∧ after.backend = session.backend ∧
          (registry.retry.Retries refusal ∨ attempts = 1))) ∧
    ∀ state refusal, registry.buildQuery backend spec filters session.now state = .error refusal →
      (∀ failure, refusal ≠ .backend failure) ∨
        ∃ scope ∈ spec.scopes, ∃ query, backend.applyScope state query scope = .error refusal := by
  intro evaluate get reached attempts
  refine ⟨⟨mirrors_evaluateAt backend.shows_recorded maxDerivationDepth name session, ?_⟩, ?_, ?_,
    fun state refusal refused => buildQuery_eq_error refused⟩
  · exact RetryPolicy.mirrors_run registry.retry (fun _ =>
      mirrors_evaluateAt backend.shows_recorded maxDerivationDepth name) session
  · intro error after failed
    exact (failed_of_evaluate found kind failed).2
  · intro error after failed
    obtain ⟨earlier, counted, rfl, before, last, limit⟩ := RetryPolicy.exists_failures failed
    have counted : attempts = earlier + 1 := counted
    have failing (made : Nat) (some : made ≤ earlier) :
        ∃ error', RetryPolicy.outcome (fun _ => evaluate) session (made + 1) = .error error' ∧
          (registry.retry.Retries error' ∧ made + 1 < attempts ∨
            error' = error ∧ made + 1 = attempts) := by
      rcases Nat.eq_or_lt_of_le some with rfl | some
      · exact ⟨error, last, .inr ⟨rfl, counted.symm⟩⟩
      · obtain ⟨error', failed', worth⟩ := before made some
        exact ⟨error', failed', .inl ⟨worth, by omega⟩⟩
    have fails (made : Nat) (some : made ≤ earlier) :
        ∃ error', RetryPolicy.outcome (fun _ => evaluate) session (made + 1) = .error error' :=
      have ⟨error', failed', _⟩ := failing made some
      ⟨error', failed'⟩
    refine ⟨?_, ⟨by omega, rfl, by rw [counted]⟩, ?_, ?_, ?_⟩
    · rw [counted]
      exact (spares_reached found kind earlier fails).2
    · intro made some
      obtain ⟨error', failed', role⟩ := failing made (by omega)
      obtain ⟨ran, -, -, why⟩ := failed_of_outcome found kind failed'
      exact ⟨error', ran, why, role⟩
    · intro worth
      rw [counted, limit worth, RetryPolicy.limit]
    · intro refusal refused
      obtain ⟨result, same⟩ := refused_reached found kind refused earlier fails
      obtain rfl : refusal = error := Except.error.inj (result.symm.trans last)
      refine ⟨rfl, same, ?_⟩
      obtain ⟨error', failed', role⟩ := failing 0 (Nat.zero_le _)
      obtain ⟨first, -⟩ := refused_reached found kind refused 0 fun attempt none =>
        fails attempt (Nat.le_trans none (Nat.zero_le _))
      obtain rfl : refusal = error' := Except.error.inj (first.symm.trans failed')
      exact role.imp And.left fun once => once.2.symm

/-- Items with a count that is kept for a minute. -/
def minuteCount : Registry :=
  (Registry.empty ⟨"Item", "items"⟩ [] .standard).define
    ⟨"S", .aggregate (.over .count), some (.fixed (.ofSeconds 60))⟩

/-- At noon a count expires. Another entry, used after it, does not, and the database is about to fail
twice: a second attempt is worth while after the first failure, and no third one after the second. -/
def failingSession : Session (Script × List Asked) where
  now := noon
  cache.store := ⟨4, [("kept", ⟨.int 1, noon.addSaturating (.ofSeconds 1)⟩),
    (fingerprint "Item" "S" .empty, ⟨.int 5, noon⟩)], 0⟩
  cache.counts := ⟨0, 0, 2, 0⟩
  backend := (⟨[], [.error (.backend ⟨.serialization, "again"⟩), .error (.backend ⟨.busy, "busy"⟩)],
    .ok .null, [], []⟩, [])

/-- Both attempts miss, the expired count is gone, and the other entry is there. -/
theorem minuteCount_misses_twice :
    ∃ after, minuteCount.get Script.backend.recorded "S" .empty failingSession =
        (.error (.backend ⟨.busy, "busy"⟩), after) ∧
      after.cache.store.entries = [("kept", ⟨.int 1, noon.addSaturating (.ofSeconds 1)⟩)] ∧
      after.cache.counts = ⟨0, 2, 2, 1⟩ := by
  have failed : (minuteCount.get Script.backend.recorded "S" .empty failingSession).1 =
      .error (.backend ⟨.busy, "busy"⟩) := by
    decide +kernel
  have twice : (minuteCount.retry.attemptsMade
      (fun _ => minuteCount.evaluate Script.backend.recorded "S" .empty) failingSession).length =
        2 := by
    decide +kernel
  obtain ⟨-, -, spared, -⟩ := failure_spares_cache Script.backend minuteCount "S"
    ⟨"S", .aggregate (.over .count), some (.fixed (.ofSeconds 60))⟩ (.over .count) .empty
    failingSession rfl rfl
  generalize ran : minuteCount.get Script.backend.recorded "S" .empty failingSession = answered
    at failed spared ⊢
  obtain ⟨result, after⟩ := answered
  obtain rfl : result = .error (.backend ⟨.busy, "busy"⟩) := failed
  obtain ⟨missed, -⟩ := spared _ after rfl
  rw [twice] at missed
  have missed : Cache.Missed noon (fingerprint "Item" "S" .empty) 2 failingSession.cache
    after.cache := missed
  refine ⟨after, rfl, ?_, ?_⟩
  · rw [missed.store]
    decide +kernel
  · rw [missed.counts]
    decide +kernel

/-- A count of the recent items. -/
def recentOnly : AggregateSpec :=
  { AggregateSpec.over .count with scopes := ["recent"] }

/-- Items with that count, and failures retried as usual. -/
def contendedItems : Registry :=
  (Registry.empty ⟨"Item", "items"⟩ [] .standard).define ⟨"S", .aggregate recentOnly, none⟩

/-- A backend that always fails to tell what a scope is, and that would count seven rows. -/
def contendedBackend : Backend Unit where
  applyScope _ _ _ := .error (.backend ⟨.serialization, "again"⟩)
  aggregate _ _ _ state := (.ok (.int 7), state)
  fetch _ state := (.ok [], state)

/-- A scope that is refused because the database failed is tried three times, with nothing asked. -/
theorem contendedItems_attempts_thrice :
    contendedItems.buildQuery contendedBackend recentOnly .empty noon () =
        .error (.backend ⟨.serialization, "again"⟩) ∧
      (contendedItems.retry.attemptsMade
        (fun _ => contendedItems.evaluate contendedBackend.recorded "S" .empty)
        ⟨noon, .empty 1, (), []⟩).length = 3 ∧
      ∃ after, contendedItems.get contendedBackend.recorded "S" .empty ⟨noon, .empty 1, (), []⟩ =
          (.error (.backend ⟨.serialization, "again"⟩), after) ∧
        after.backend.2 = [] :=
  ⟨rfl, rfl, _, rfl, rfl⟩

end Registry

end Statbook
