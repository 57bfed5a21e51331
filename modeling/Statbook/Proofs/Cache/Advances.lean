import Statbook.Proofs.Cache.Lifetime
import Statbook.Proofs.Calendar.Adding

/-!
# How time passes for a cached value

The clock of a cache is moved on, in steps of any size, and in between the cache is read. What was
put is answered as long as all the steps together are shorter than its lifetime, and not from then
on. Where the lifetime goes beyond the calendar, it is answered until the clock stands at the last
nanosecond, where the clock stops.
-/

namespace Statbook

namespace CacheAction

/-- Whether the action lets time pass, or only reads. -/
def Watches : CacheAction → Prop
  | advance _ | get _ | look _ => True
  | put .. | invalidate _ | clear | setClock _ => False

/-- By how many nanoseconds the action moves the clock on. -/
def span : CacheAction → Nat
  | advance span => span.nanos
  | _ => 0

theorem not_settles_of_watches {action : CacheAction} (watches : action.Watches) (key : String) :
    ¬action.Settles key := by
  cases action with
  | put => cases watches
  | invalidate => cases watches
  | clear => cases watches
  | get => exact id
  | look => exact id
  | advance => exact id
  | setClock => exact id

end CacheAction

namespace TimedCache

/-- By how many nanoseconds all the actions move the clock on. -/
def elapsed : List CacheAction → Nat
  | [] => 0
  | action :: actions => action.span + elapsed actions

variable {state : TimedCache} {key : String} {action : CacheAction} {actions : List CacheAction}

theorem elapsed_append (early late : List CacheAction) :
    elapsed (early ++ late) = elapsed early + elapsed late := by
  induction early with
  | nil => exact (Nat.zero_add _).symm
  | cons action early ih =>
    rw [List.cons_append, elapsed, elapsed, ih]
    exact (Nat.add_assoc ..).symm

theorem clock_stays (inCalendar : state.now ≤ .last) : state.now.Reaches state.now ∧
    state.now.number = min (state.now.number + (0 : Nat)) Timestamp.last.number := by
  have before := (Timestamp.reaches_last inCalendar).number_le
  exact ⟨.refl state.now, by omega⟩

theorem clock_perform (inCalendar : state.now ≤ .last) (watches : action.Watches) :
    state.now.Reaches (state.perform action).now ∧
      (state.perform action).now.number =
        min (state.now.number + action.span) Timestamp.last.number := by
  cases action with
  | advance span =>
    have advanced := Timestamp.number_addSaturating inCalendar span
    simpa only [perform, CacheAction.span] using advanced
  | get key => exact clock_stays inCalendar
  | look key => exact clock_stays inCalendar
  | put => cases watches
  | invalidate => cases watches
  | clear => cases watches
  | setClock => cases watches

theorem le_last_of_number_le {t : Timestamp} (inCalendar : state.now ≤ .last)
    (reached : state.now.Reaches t) (within : t.number ≤ Timestamp.last.number) : t ≤ .last :=
  (reached.le_iff (Timestamp.reaches_last inCalendar)).mpr within

/-- The clock has moved on by all the steps together, as far as the calendar goes. -/
theorem clock_foldl (inCalendar : state.now ≤ .last)
    (watched : ∀ action ∈ actions, action.Watches) :
    state.now.Reaches (actions.foldl perform state).now ∧
      (actions.foldl perform state).now.number =
        min (state.now.number + elapsed actions) Timestamp.last.number := by
  induction actions generalizing state with
  | nil => exact clock_stays inCalendar
  | cons action actions ih =>
    obtain ⟨first, moved⟩ := clock_perform inCalendar (watched action List.mem_cons_self)
    have inCalendar' := le_last_of_number_le inCalendar first (by omega)
    obtain ⟨later, moved'⟩ :=
      ih inCalendar' fun action member => watched action (List.mem_cons_of_mem _ member)
    refine ⟨first.trans later, ?_⟩
    rw [List.foldl_cons, moved', moved, elapsed]
    omega

theorem clock_after_put (key : String) (value : StatValue) (ttl : Duration)
    (inCalendar : state.now ≤ .last) (watched : ∀ action ∈ actions, action.Watches) :
    let after := actions.foldl perform (state.perform (.put key value ttl))
    state.now.Reaches after.now ∧
      after.now.number = min (state.now.number + elapsed actions) Timestamp.last.number := by
  have start : (state.perform (.put key value ttl)).now ≤ .last := inCalendar
  exact clock_foldl start watched

/-- An entry stays where it is as long as its time is not over. -/
theorem find?_perform_of_live {entry : CacheEntry} (watches : action.Watches)
    (found : state.cache.store.find? key = some entry) (live : state.now < entry.expiresAt) :
    (state.perform action).cache.store.find? key = some entry := by
  cases action with
  | advance span => exact found
  | get key' =>
    exact Cache.find?_get_of_live found (by simpa [CacheEntry.isExpired] using live) key'
  | look key' => exact (Store.find?_read state.cache.store key' key).trans found
  | put => cases watches
  | invalidate => cases watches
  | clear => cases watches
  | setClock => cases watches

theorem find?_foldl_of_live {entry : CacheEntry} (inCalendar : state.now ≤ .last)
    (watched : ∀ action ∈ actions, action.Watches)
    (found : state.cache.store.find? key = some entry)
    (live : (actions.foldl perform state).now < entry.expiresAt) :
    (actions.foldl perform state).cache.store.find? key = some entry := by
  induction actions generalizing state with
  | nil => exact found
  | cons action actions ih =>
    have watches := watched action List.mem_cons_self
    have others : ∀ action ∈ actions, action.Watches :=
      fun action member => watched action (List.mem_cons_of_mem _ member)
    obtain ⟨first, moved⟩ := clock_perform inCalendar watches
    have inCalendar' := le_last_of_number_le inCalendar first (by omega)
    have earlier : state.now ≤ ((action :: actions).foldl perform state).now := by
      have reached := clock_foldl inCalendar watched
      exact ((Timestamp.Reaches.refl state.now).le_iff reached.1).mpr reached.1.number_le
    have live' := Timestamp.lt_of_le_of_lt earlier live
    exact ih inCalendar' others (find?_perform_of_live watches found live') live

/-- What was put is answered exactly until the moment when its time is over. -/
theorem answer_of_put (value : StatValue) (ttl : Duration) (inCalendar : state.now ≤ .last)
    (watched : ∀ action ∈ actions, action.Watches) :
    let after := actions.foldl perform (state.perform (.put key value ttl))
    (after.now < state.now.addSaturating ttl → after.answer key = some value) ∧
      (¬after.now < state.now.addSaturating ttl → after.answer key = none) := by
  intro after
  have put : (state.perform (.put key value ttl)).cache.store.find? key =
      some ⟨value, state.now.addSaturating ttl⟩ :=
    Store.find?_write_self state.cache.store key _
  have still : (state.perform (.put key value ttl)).now ≤ .last := inCalendar
  -- The moment itself does not matter here, only that the entry carries it.
  generalize state.now.addSaturating ttl = deadline at put ⊢
  refine ⟨fun live => ?_, fun ended => ?_⟩
  · have kept := find?_foldl_of_live still watched put live
    exact Cache.fst_get_eq_some_iff.mpr ⟨_, kept, live, rfl⟩
  · refine Option.eq_none_iff_forall_ne_some.mpr fun other answered => ended ?_
    obtain ⟨entry, found, live, -⟩ := Cache.fst_get_eq_some_iff.mp answered
    have before := find?_of_foldl
      (fun action member => CacheAction.not_settles_of_watches (watched action member) key) found
    obtain rfl := Option.some.inj (before.symm.trans put)
    exact live

/-- From a value that is put at any time of the calendar on, whether a leap second or not, the clock
is moved on in any steps, and the cache is read in between. If the lifetime of the value does not go
beyond the calendar, the value is answered while the steps together are shorter than it, and nothing
is answered from then on. Otherwise the value is answered just as long as the clock is before the
last nanosecond. The clock never goes back, and it goes as far as the steps together, up to the
last nanosecond, where it stays. -/
theorem answer_until_elapsed (state : TimedCache) (key : String) (value : StatValue)
    (ttl : Duration) (actions : List CacheAction) (inCalendar : state.now ≤ .last)
    (watched : ∀ action ∈ actions, action.Watches) :
    let start := state.perform (.put key value ttl)
    let after := actions.foldl perform start
    (state.now.number + ttl.nanos ≤ Timestamp.last.number →
      (elapsed actions < ttl.nanos → after.answer key = some value) ∧
      (ttl.nanos ≤ elapsed actions → after.answer key = none)) ∧
    (Timestamp.last.number < state.now.number + ttl.nanos →
      (after.now < .last → after.answer key = some value) ∧
      (¬after.now < .last → after.answer key = none)) ∧
    (∀ early late, actions = early ++ late → (early.foldl perform start).now ≤ after.now) ∧
    after.now.number = min (state.now.number + elapsed actions) Timestamp.last.number ∧
    (Timestamp.last.number ≤ state.now.number + elapsed actions ↔ after.now = .last) := by
  intro start after
  obtain ⟨live, ended⟩ := answer_of_put value ttl inCalendar watched
  obtain ⟨reached, clock⟩ := clock_after_put key value ttl inCalendar watched
  obtain ⟨expires, deadline⟩ := Timestamp.number_addSaturating inCalendar ttl
  have last := Timestamp.reaches_last inCalendar
  refine ⟨fun fits => ⟨fun early => live ?_, fun late => ended ?_⟩,
    fun passes => ?_, fun early late split => ?_, clock, ?_⟩
  · rw [reached.lt_iff expires, deadline, clock]
    omega
  · rw [reached.lt_iff expires, deadline, clock]
    omega
  · have saturated : state.now.addSaturating ttl = .last := by
      rw [Timestamp.addSaturating, (Timestamp.add?_eq_none_iff inCalendar).mpr passes,
        Option.getD_none]
    rw [saturated] at live ended
    exact ⟨live, ended⟩
  · have watchedEarly : ∀ action ∈ early, action.Watches :=
      fun action member => watched action (split ▸ List.mem_append_left late member)
    obtain ⟨reached', clock'⟩ := clock_after_put key value ttl inCalendar watchedEarly
    have total := elapsed_append early late
    rw [reached'.le_iff reached, clock', clock, split]
    omega
  · rw [reached.eq_iff last, clock]
    omega

/-- From the middle of a leap second on, the steps are counted like anywhere else. -/
theorem answer_across_leap_second :
    let state : TimedCache := ⟨.empty 1, ⟨⟨2016, 12, 31, by decide, by decide⟩,
      ⟨86399, 1500000000, by decide, by decide⟩⟩⟩
    let start := state.perform (.put "members" .null (.ofMillis 600))
    let steps := [CacheAction.advance (.ofMillis 300), .get "members", .advance (.ofMillis 299)]
    let more := steps ++ [CacheAction.advance (.ofMillis 1)]
    (steps.foldl perform start).answer "members" = some .null ∧
      (more.foldl perform start).answer "members" = none := by
  intro state start steps more
  have inCalendar : state.now ≤ .last := .inl (by decide)
  have fits : state.now.number + (Duration.ofMillis 600).nanos ≤ Timestamp.last.number := by decide
  have watched : ∀ action ∈ more, action.Watches := by
    simp [more, steps, CacheAction.Watches]
  have early := answer_until_elapsed state "members" .null (.ofMillis 600) steps inCalendar
    fun action member => watched action (List.mem_append_left _ member)
  have late := answer_until_elapsed state "members" .null (.ofMillis 600) more inCalendar watched
  exact ⟨(early.1 fits).1 (by decide), (late.1 fits).2 (by decide)⟩

end TimedCache

end Statbook
