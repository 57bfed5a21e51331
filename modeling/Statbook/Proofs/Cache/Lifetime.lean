import Mathlib.Data.List.Induction
import Statbook.Proofs.Cache.Store
import Statbook.Proofs.Cache.Trace

/-!
# How long a cache answers

A cache that is read while its clock goes on, and now and then back. A read is answered only
with what was put last, before its time is over. What a read found expired is gone, wherever the
clock goes from there.
-/

namespace Statbook

/-- What may be done to a cache and to its clock. -/
inductive CacheAction where
  | put (key : String) (value : StatValue) (ttl : Duration)
  | get (key : String)
  | invalidate (key : String)
  | clear
  /-- The store is read past the cache. -/
  | look (key : String)
  | advance (span : Duration)
  | setClock (now : Timestamp)

namespace CacheAction

/-- Whether the action decides what a cache holds under a key from then on. -/
def Settles (key : String) : CacheAction → Prop
  | put key' _ _ | invalidate key' => key' = key
  | clear => True
  | get _ | look _ | advance _ | setClock _ => False

/-- Whether the action puts a value under the key. -/
def Puts (key : String) : CacheAction → Prop
  | put key' _ _ => key' = key
  | _ => False

def isPut : CacheAction → Bool
  | put .. => true
  | _ => false

def isGet : CacheAction → Bool
  | get _ => true
  | _ => false

end CacheAction

/-- A cache, and the time that its clock shows. -/
structure TimedCache where
  cache : Cache
  now : Timestamp

namespace TimedCache

/-- The cache and the clock after an action. -/
def perform (state : TimedCache) : CacheAction → TimedCache
  | .put key value ttl => { state with cache := state.cache.put state.now key value ttl }
  | .get key => { state with cache := (state.cache.get state.now key).2 }
  | .invalidate key => { state with cache := state.cache.invalidate key }
  | .clear => { state with cache := state.cache.clear }
  | .look key =>
    { state with cache := { state.cache with store := (state.cache.store.read key).2 } }
  | .advance span => { state with now := state.now.addSaturating span }
  | .setClock now => { state with now }

/-- The cache and the clock after actions that found the cache empty. -/
def run (capacity : Nat) (start : Timestamp) (actions : List CacheAction) : TimedCache :=
  actions.foldl perform ⟨.empty capacity, start⟩

/-- What a read of the key is answered with. -/
def answer (state : TimedCache) (key : String) : Option StatValue :=
  (state.cache.get state.now key).1

/-- The cache has an entry under the key, and its time is over. -/
def hasExpired (state : TimedCache) (key : String) : Bool :=
  (state.cache.store.find? key).any (·.isExpired state.now)

/-- Whether the action is a read that is answered with a value. -/
def hits (state : TimedCache) : CacheAction → Bool
  | .get key => (state.answer key).isSome
  | _ => false

/-- Whether the action is a read that finds an expired entry. -/
def expires (state : TimedCache) : CacheAction → Bool
  | .get key => state.hasExpired key
  | _ => false

/-- The number of actions of a run of which something is told. -/
def count (told : TimedCache → CacheAction → Bool) (capacity : Nat) (start : Timestamp)
    (actions : List CacheAction) : Nat :=
  (trace perform ⟨.empty capacity, start⟩ actions).countP fun met => told met.1 met.2

section Run

variable (capacity : Nat) (start : Timestamp) (actions : List CacheAction) (action : CacheAction)

theorem run_concat : run capacity start (actions ++ [action]) =
    (run capacity start actions).perform action := by
  simp [run]

theorem count_concat (told : TimedCache → CacheAction → Bool) :
    count told capacity start (actions ++ [action]) =
      count told capacity start actions + (told (run capacity start actions) action).toNat := by
  have last : told (run capacity start actions) action =
      told (actions.foldl perform ⟨.empty capacity, start⟩) action := rfl
  simp only [count, trace_concat, List.countP_append, List.countP_singleton, last]
  cases told (actions.foldl perform ⟨.empty capacity, start⟩) action <;> rfl

end Run

variable {state : TimedCache} {key : String} {action : CacheAction}

/-- An action that does not settle what a key has leaves the entry there or takes it away. -/
theorem find?_of_perform {entry : CacheEntry} (unsettled : ¬action.Settles key)
    (found : (state.perform action).cache.store.find? key = some entry) :
    state.cache.store.find? key = some entry := by
  cases action with
  | put key' value ttl => exact Store.find?_of_write (fun same => unsettled same.symm) found
  | get key' => exact Cache.find?_of_get found
  | invalidate key' =>
    rw [← found]
    exact (Store.find?_delete_of_ne fun same => unsettled same.symm).symm
  | clear => exact absurd trivial unsettled
  | look key' =>
    rw [← found]
    exact (Store.find?_read state.cache.store key' key).symm
  | advance span => exact found
  | setClock now => exact found

theorem find?_of_foldl {actions : List CacheAction} {entry : CacheEntry}
    (unsettled : ∀ action ∈ actions, ¬action.Settles key)
    (found : (actions.foldl perform state).cache.store.find? key = some entry) :
    state.cache.store.find? key = some entry := by
  induction actions generalizing state with
  | nil => exact found
  | cons action actions ih =>
    exact find?_of_perform (unsettled action List.mem_cons_self)
      (ih (fun action' member => unsettled action' (List.mem_cons_of_mem _ member)) found)

/-- Where an action that settles what a key has leaves an entry, it has put it there. -/
theorem put_of_perform {entry : CacheEntry} (settles : action.Settles key)
    (found : (state.perform action).cache.store.find? key = some entry) :
    ∃ value ttl, action = .put key value ttl ∧
      entry = ⟨value, state.now.addSaturating ttl⟩ := by
  cases action with
  | put key' value ttl =>
    obtain rfl : key' = key := settles
    have written := Store.find?_write_self state.cache.store key'
      ⟨value, state.now.addSaturating ttl⟩
    exact ⟨value, ttl, rfl, Option.some.inj (found.symm.trans written)⟩
  | invalidate key' =>
    obtain rfl : key' = key := settles
    cases (Store.find?_delete_self _ key').symm.trans found
  | clear => cases found
  | get key' => cases settles
  | look key' => cases settles
  | advance span => cases settles
  | setClock now => cases settles

/-- Only a put brings an entry to a key without one. -/
theorem find?_perform_eq_none (absent : state.cache.store.find? key = none)
    (unput : ¬action.Puts key) : (state.perform action).cache.store.find? key = none := by
  cases found : (state.perform action).cache.store.find? key with
  | none => rfl
  | some entry =>
    by_cases settles : action.Settles key
    · obtain ⟨value, ttl, rfl, -⟩ := put_of_perform settles found
      exact absurd rfl unput
    · rw [find?_of_perform settles found] at absent
      cases absent

theorem hasExpired_iff : state.hasExpired key = true ↔
    ∃ entry, state.cache.store.find? key = some entry ∧ entry.isExpired state.now = true := by
  simp [hasExpired, Option.any_eq_true]

theorem find?_get_of_hasExpired (expired : state.hasExpired key = true) :
    (state.perform (.get key)).cache.store.find? key = none := by
  obtain ⟨entry, found, late⟩ := hasExpired_iff.mp expired
  rw [perform, Cache.get_of_expired found late]
  exact Store.find?_delete_self _ key

/-- The entry that a cache has under a key is the one put last, and nothing took it away since. -/
theorem latest_put (capacity : Nat) (start : Timestamp) (actions : List CacheAction) (key : String)
    (entry : CacheEntry)
    (found : (run capacity start actions).cache.store.find? key = some entry) :
    ∃ early value ttl late, actions = early ++ .put key value ttl :: late ∧
      (∀ action ∈ late, ¬action.Settles key) ∧
      entry = ⟨value, (run capacity start early).now.addSaturating ttl⟩ := by
  induction actions using List.reverseRecOn with
  | nil => cases found
  | append_singleton actions action ih =>
    rw [run_concat] at found
    -- What the key has is due to the last action, or to the actions before it.
    by_cases settles : action.Settles key
    · obtain ⟨value, ttl, rfl, same⟩ := put_of_perform settles found
      exact ⟨actions, value, ttl, [], rfl, fun _ member => absurd member List.not_mem_nil, same⟩
    · obtain ⟨early, value, ttl, late, split, unsettled, same⟩ :=
        ih (find?_of_perform settles found)
      refine ⟨early, value, ttl, late ++ [action], by simp [split], ?_, same⟩
      intro action' member
      rcases List.mem_append.mp member with member | last
      · exact unsettled action' member
      · rwa [List.mem_singleton.mp last]

/-- A key without an entry stays without one until something is put under it. -/
theorem find?_run_eq_none (capacity : Nat) (start : Timestamp) {early late : List CacheAction}
    (absent : (run capacity start early).cache.store.find? key = none)
    (unput : ∀ action ∈ late, ¬action.Puts key) :
    (run capacity start (early ++ late)).cache.store.find? key = none := by
  induction late using List.reverseRecOn with
  | nil => rwa [List.append_nil]
  | append_singleton late action ih =>
    have before := ih fun action member => unput action (List.mem_append_left _ member)
    rw [← List.append_assoc, run_concat]
    exact find?_perform_eq_none before (unput action (by simp))

theorem answer_eq_none (absent : state.cache.store.find? key = none) :
    state.answer key = none := by
  rw [answer, Cache.get_of_absent absent]

theorem counts_perform (state : TimedCache) (action : CacheAction) :
    (state.perform action).cache.counts =
      { hits := state.cache.counts.hits + (state.hits action).toNat
        misses := state.cache.counts.misses + (action.isGet && !state.hits action).toNat
        writes := state.cache.counts.writes + action.isPut.toNat
        expirations := state.cache.counts.expirations + (state.expires action).toNat } := by
  cases action with
  | get key =>
    cases found : state.cache.store.find? key with
    | none =>
      simp [perform, hits, answer, expires, hasExpired, CacheAction.isGet, CacheAction.isPut,
        Cache.get_of_absent found, found]
    | some entry =>
      cases expired : entry.isExpired state.now with
      | false =>
        simp [perform, hits, answer, expires, hasExpired, CacheAction.isGet, CacheAction.isPut,
          Cache.get_of_live found expired, found, expired]
      | true =>
        simp [perform, hits, answer, expires, hasExpired, CacheAction.isGet, CacheAction.isPut,
          Cache.get_of_expired found expired, found, expired]
  | put key value ttl => rfl
  | invalidate key => rfl
  | clear => rfl
  | look key => rfl
  | advance span => rfl
  | setClock now => rfl

theorem isGet_of_hits (hit : state.hits action = true) : action.isGet = true := by
  cases action with
  | get key => rfl
  | _ => cases hit

/-- A read that finds an expired entry is not answered. -/
theorem hits_of_expires (expires : state.expires action = true) :
    action.isGet = true ∧ state.hits action = false := by
  cases action with
  | get key =>
    refine ⟨rfl, ?_⟩
    obtain ⟨entry, found, late⟩ := hasExpired_iff.mp expires
    simp [hits, answer, Cache.get_of_expired found late]
  | put key value ttl => cases expires
  | invalidate key => cases expires
  | clear => cases expires
  | look key => cases expires
  | advance span => cases expires
  | setClock now => cases expires

/-- The counts of a cache are those of the reads and the puts of its run. -/
theorem counts_run (capacity : Nat) (start : Timestamp) (actions : List CacheAction) :
    (run capacity start actions).cache.counts.hits = count hits capacity start actions ∧
    (run capacity start actions).cache.counts.hits +
      (run capacity start actions).cache.counts.misses =
        count (fun _ action => action.isGet) capacity start actions ∧
    (run capacity start actions).cache.counts.writes =
      count (fun _ action => action.isPut) capacity start actions ∧
    (run capacity start actions).cache.counts.expirations =
      count expires capacity start actions ∧
    (run capacity start actions).cache.counts.expirations ≤
      (run capacity start actions).cache.counts.misses := by
  induction actions using List.reverseRecOn with
  | nil => exact ⟨rfl, rfl, rfl, rfl, Nat.le_refl 0⟩
  | append_singleton actions action ih =>
    simp only [run_concat, count_concat, counts_perform]
    generalize run capacity start actions = state at ih ⊢
    obtain ⟨hits, gets, writes, expirations, fewer⟩ := ih
    refine ⟨by rw [hits], ?_, by rw [writes], by rw [expirations], ?_⟩
    · rw [← gets]
      cases hit : state.hits action with
      | false =>
        rw [Bool.not_false, Bool.and_true, Bool.toNat_false]
        omega
      | true =>
        rw [isGet_of_hits hit, Bool.not_true, Bool.and_false, Bool.toNat_false, Bool.toNat_true]
        omega
    · cases late : state.expires action with
      | false => exact Nat.le_add_right_of_le fewer
      | true =>
        obtain ⟨get, missed⟩ := hits_of_expires late
        simpa [get, missed] using fewer

/-- Whatever is done to a cache, and wherever its clock is moved: a read is answered only with
what was put last, if nothing took it away since and its time is not over yet. A key found
expired is not answered any more until something is put under it. The hits and the misses are
the reads, the writes the puts, and the expirations the reads that found an expired entry. -/
theorem run_answers_in_time (capacity : Nat) (start : Timestamp) (actions : List CacheAction) :
    (∀ key value, (run capacity start actions).answer key = some value →
      ∃ early ttl late, actions = early ++ .put key value ttl :: late ∧
        (∀ action ∈ late, ¬action.Settles key) ∧
        (run capacity start actions).now < (run capacity start early).now.addSaturating ttl) ∧
    (∀ early key late, actions = early ++ .get key :: late →
      (run capacity start early).hasExpired key = true →
      (∀ action ∈ late, ¬action.Puts key) →
      (run capacity start actions).answer key = none) ∧
    (run capacity start actions).cache.counts.hits = count hits capacity start actions ∧
    (run capacity start actions).cache.counts.hits +
      (run capacity start actions).cache.counts.misses =
        count (fun _ action => action.isGet) capacity start actions ∧
    (run capacity start actions).cache.counts.writes =
      count (fun _ action => action.isPut) capacity start actions ∧
    (run capacity start actions).cache.counts.expirations =
      count expires capacity start actions ∧
    (run capacity start actions).cache.counts.expirations ≤
      (run capacity start actions).cache.counts.misses := by
  refine ⟨?_, ?_, counts_run capacity start actions⟩
  · intro key value answered
    obtain ⟨entry, found, live, rfl⟩ := Cache.fst_get_eq_some_iff.mp answered
    obtain ⟨early, value, ttl, late, split, unsettled, rfl⟩ :=
      latest_put capacity start actions key entry found
    dsimp only at live
    exact ⟨early, ttl, late, split, unsettled, live⟩
  · intro early key late split expired unput
    subst split
    have gone : (run capacity start (early ++ [.get key])).cache.store.find? key = none := by
      rw [run_concat]
      exact find?_get_of_hasExpired expired
    have absent := find?_run_eq_none capacity start gone unput
    rw [List.append_assoc, List.singleton_append] at absent
    exact answer_eq_none absent

end TimedCache

end Statbook
