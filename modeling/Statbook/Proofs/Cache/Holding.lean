import Statbook.Proofs.Cache.Lifetime
import Statbook.Proofs.Cache.Recency

/-!
# How long a cache holds what was put

A cache does to its store what its actions say, and it deletes an entry that it finds expired. So
what was put is held as long as its time is not over whenever the cache is used, nothing settles
its key anew, and few other keys are used.
-/

namespace Statbook

theorem trace_append {σ α : Type} {perform : σ → α → σ} (state : σ) (first second : List α) :
    trace perform state (first ++ second) =
      trace perform state first ++ trace perform (first.foldl perform state) second := by
  induction first generalizing state with
  | nil => rfl
  | cons action first ih => simp [trace, ih]

/-- Whether the clock shows the same time after the action. -/
def CacheAction.KeepsClock : CacheAction → Prop
  | put .. | get _ | invalidate _ | clear | look _ => True
  | advance _ | setClock _ => False

namespace TimedCache

variable {state : TimedCache} {key : String}

theorem now_perform {action : CacheAction} (still : action.KeepsClock) :
    (state.perform action).now = state.now := by
  cases action with
  | advance span => cases still
  | setClock now => cases still
  | put key value ttl => rfl
  | get key => rfl
  | invalidate key => rfl
  | clear => rfl
  | look key => rfl

theorem now_foldl {actions : List CacheAction} (still : ∀ action ∈ actions, action.KeepsClock) :
    (actions.foldl perform state).now = state.now := by
  induction actions generalizing state with
  | nil => rfl
  | cons action actions ih =>
    rw [List.foldl_cons, ih fun action member => still action (List.mem_cons_of_mem _ member)]
    exact now_perform (still action List.mem_cons_self)

/-- A clock that is not moved shows the same time all along. -/
theorem now_of_mem_trace {actions : List CacheAction} (still : ∀ action ∈ actions, action.KeepsClock) :
    ∀ met ∈ trace perform state actions, met.1.now = state.now := by
  induction actions generalizing state with
  | nil => exact fun met member => absurd member List.not_mem_nil
  | cons action actions ih =>
    intro met member
    rcases List.mem_cons.mp member with rfl | later
    · rfl
    · rw [ih (fun action member => still action (List.mem_cons_of_mem _ member)) met later]
      exact now_perform (still action List.mem_cons_self)

/-- What an action does to the store. -/
def storeActions (state : TimedCache) : CacheAction → List StoreAction
  | .put key value ttl => [.write key ⟨value, state.now.addSaturating ttl⟩]
  | .get key => if state.hasExpired key then [.read key, .delete key] else [.read key]
  | .invalidate key => [.delete key]
  | .clear => [.clear]
  | .look key => [.read key]
  | .advance _ | .setClock _ => []

/-- What actions that follow one another do to the store. -/
def storeActionsFrom (state : TimedCache) (actions : List CacheAction) : List StoreAction :=
  (trace perform state actions).flatMap fun met => met.1.storeActions met.2

/-- What the actions of a run do to the store. -/
def storeHistory (capacity : Nat) (start : Timestamp) (actions : List CacheAction) :
    List StoreAction :=
  storeActionsFrom ⟨.empty capacity, start⟩ actions

theorem storeActionsFrom_cons (state : TimedCache) (action : CacheAction)
    (actions : List CacheAction) : storeActionsFrom state (action :: actions) =
      state.storeActions action ++ storeActionsFrom (state.perform action) actions :=
  rfl

theorem storeHistory_append (capacity : Nat) (start : Timestamp) (early late : List CacheAction) :
    storeHistory capacity start (early ++ late) = storeHistory capacity start early ++
      storeActionsFrom (run capacity start early) late := by
  unfold storeHistory storeActionsFrom
  rw [trace_append, List.flatMap_append]
  rfl

theorem store_perform (state : TimedCache) (action : CacheAction) :
    (state.perform action).cache.store =
      (state.storeActions action).foldl Store.perform state.cache.store := by
  cases action with
  | get key =>
    cases found : state.cache.store.find? key with
    | none =>
      have fresh : state.hasExpired key = false := by simp [hasExpired, found]
      rw [storeActions, fresh, perform, Cache.get_of_absent found]
      simp [Store.perform, Store.read, found]
    | some entry =>
      cases expired : entry.isExpired state.now with
      | true =>
        have late : state.hasExpired key = true := by simp [hasExpired, found, expired]
        rw [storeActions, late, perform, Cache.get_of_expired found expired]
        rfl
      | false =>
        have fresh : state.hasExpired key = false := by simp [hasExpired, found, expired]
        rw [storeActions, fresh, perform, Cache.get_of_live found expired]
        rfl
  | put key value ttl => rfl
  | invalidate key => rfl
  | clear => rfl
  | look key => rfl
  | advance span => rfl
  | setClock now => rfl

theorem store_run (capacity : Nat) (start : Timestamp) (actions : List CacheAction) :
    (run capacity start actions).cache.store =
      Store.run capacity (storeHistory capacity start actions) := by
  induction actions using List.reverseRecOn with
  | nil => rfl
  | append_singleton actions action ih =>
    rw [run_concat, store_perform, ih, storeHistory_append]
    unfold Store.run storeActionsFrom
    rw [List.foldl_append, trace, trace, List.flatMap_singleton]

/-- An entry whose time is not over is not settled anew by what only reads it. -/
theorem unsettled_storeActions {entry : CacheEntry} {action : CacheAction}
    (only : ∀ entry', state.cache.store.find? key = some entry' → entry' = entry)
    (unsettled : ¬action.Settles key) (timely : state.now < entry.expiresAt) :
    ∀ done ∈ state.storeActions action, ¬done.Settles key := by
  intro done member settles
  cases action with
  | get key' =>
    rw [storeActions] at member
    split at member
    · next late =>
      rcases List.mem_cons.mp member with rfl | member
      · exact settles
      · obtain rfl := List.mem_singleton.mp member
        obtain rfl : key' = key := settles
        obtain ⟨entry', found, expired⟩ := hasExpired_iff.mp late
        obtain rfl := only entry' found
        simp [CacheEntry.isExpired, timely] at expired
    · obtain rfl := List.mem_singleton.mp member
      exact settles
  | put key' value ttl =>
    obtain rfl := List.mem_singleton.mp member
    exact unsettled settles
  | invalidate key' =>
    obtain rfl := List.mem_singleton.mp member
    exact unsettled settles
  | clear => exact unsettled trivial
  | look key' =>
    obtain rfl := List.mem_singleton.mp member
    exact settles
  | advance span => cases member
  | setClock now => cases member

theorem unsettled_storeActionsFrom {entry : CacheEntry} {actions : List CacheAction}
    (only : ∀ entry', state.cache.store.find? key = some entry' → entry' = entry)
    (unsettled : ∀ action ∈ actions, ¬action.Settles key)
    (timely : ∀ met ∈ trace perform state actions, met.1.now < entry.expiresAt) :
    ∀ done ∈ state.storeActionsFrom actions, ¬done.Settles key := by
  induction actions generalizing state with
  | nil => exact fun done member => absurd member List.not_mem_nil
  | cons action actions ih =>
    have here : ¬action.Settles key := unsettled action List.mem_cons_self
    have inTime : state.now < entry.expiresAt := timely (state, action) List.mem_cons_self
    intro done member
    rw [storeActionsFrom_cons, List.mem_append] at member
    rcases member with first | later
    · exact unsettled_storeActions only here inTime done first
    · exact ih (fun entry' found => only entry' (find?_of_perform here found))
        (fun action member => unsettled action (List.mem_cons_of_mem _ member))
        (fun met member => timely met (List.mem_cons_of_mem _ member)) done later

/-- What was put is answered as long as its time is not over whenever the cache is used, nothing
settles its key anew, and fewer other keys are used since its last use than there is room for. -/
theorem answer_of_held (capacity : Nat) (start : Timestamp) (early : List CacheAction) (key : String)
    (value : StatValue) (ttl : Duration) (late : List CacheAction)
    (unsettled : ∀ action ∈ late, ¬action.Settles key)
    (timely : ∀ met ∈ trace perform (run capacity start (early ++ [.put key value ttl])) late,
      met.1.now < (run capacity start early).now.addSaturating ttl)
    (inTime : (run capacity start (early ++ .put key value ttl :: late)).now <
      (run capacity start early).now.addSaturating ttl)
    (few : (Store.usedSince capacity
        (storeHistory capacity start (early ++ .put key value ttl :: late)) key).length <
      max capacity 1) :
    (run capacity start (early ++ .put key value ttl :: late)).answer key = some value := by
  generalize expires : (run capacity start early).now.addSaturating ttl = moment at timely inTime
  have put : (run capacity start (early ++ [.put key value ttl])).cache.store.find? key =
      some ⟨value, moment⟩ := by
    rw [run_concat, ← expires]
    exact Store.find?_write_self _ key _
  have history : storeHistory capacity start (early ++ .put key value ttl :: late) =
      storeHistory capacity start early ++ .write key ⟨value, moment⟩ ::
        storeActionsFrom (run capacity start (early ++ [.put key value ttl])) late := by
    rw [storeHistory_append, run_concat, ← expires]
    rfl
  have kept := unsettled_storeActionsFrom
    (fun entry' found => Option.some.inj (found.symm.trans put)) unsettled timely
  have found : (run capacity start (early ++ .put key value ttl :: late)).cache.store.find? key =
      some ⟨value, moment⟩ := by
    rw [history] at few
    rw [store_run, history]
    exact (Store.find?_run capacity _ key ⟨value, moment⟩ _ kept).2 few
  exact Cache.fst_get_eq_some_iff.mpr ⟨_, found, inTime, rfl⟩

end TimedCache

end Statbook
