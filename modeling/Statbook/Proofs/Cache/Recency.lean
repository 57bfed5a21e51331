import Mathlib.Algebra.GroupWithZero.Nat
import Mathlib.Data.List.Dedup
import Mathlib.Data.List.Induction
import Mathlib.Data.List.Perm.Subperm
import Mathlib.Data.List.TakeWhile
import Statbook.Proofs.Cache.Store
import Statbook.Proofs.Cache.Trace

/-!
# Which entries a store keeps

What a store holds is told by the keys that were used, and not by how it keeps its entries: an
entry that was not deleted is there as long as fewer other keys were used since its own last
use than the store has room for. Every entry that was ever added is still there, was dropped
to make room, or was removed.
-/

namespace Statbook

/-- What may be done to a store. -/
inductive StoreAction where
  | read (key : String)
  | write (key : String) (entry : CacheEntry)
  | delete (key : String)
  | clear

namespace StoreAction

/-- Whether the action decides what a store holds under a key from then on. -/
def Settles (key : String) : StoreAction → Prop
  | read _ => False
  | write key' _ | delete key' => key' = key
  | clear => True

/-- Whether the action takes entries away without being asked to make room. -/
def Removes : StoreAction → Prop
  | read _ | write .. => False
  | delete _ | clear => True

end StoreAction

namespace Store

/-- The store after an action. -/
def perform (store : Store) : StoreAction → Store
  | .read key => (store.read key).2
  | .write key entry => store.write key entry
  | .delete key => store.delete key
  | .clear => store.clear

/-- The store after actions that found it empty. -/
def run (capacity : Nat) (actions : List StoreAction) : Store :=
  actions.foldl perform (empty capacity)

/-- The key that an action uses: that of a write, and that of a read that finds an entry. -/
def used? (store : Store) : StoreAction → Option String
  | .read key => if (store.find? key).isSome then some key else none
  | .write key _ => some key
  | .delete _ | .clear => none

/-- The keys that the actions of a run use, the one used last in front. -/
def used (capacity : Nat) (actions : List StoreAction) : List String :=
  ((trace perform (empty capacity) actions).filterMap fun met => met.1.used? met.2).reverse

/-- The distinct keys that are used after the last use of a key. -/
def usedSince (capacity : Nat) (actions : List StoreAction) (key : String) : List String :=
  ((used capacity actions).takeWhile (· ≠ key)).dedup

/-- The number of entries that an action adds under a key without one. -/
def added (store : Store) : StoreAction → Nat
  | .write key _ => if (store.find? key).isSome then 0 else 1
  | _ => 0

/-- The number of entries that an action deletes by their key. -/
def deleted (store : Store) : StoreAction → Nat
  | .delete key => if (store.find? key).isSome then 1 else 0
  | _ => 0

/-- The number of entries that an action clears away. -/
def cleared (store : Store) : StoreAction → Nat
  | .clear => store.size
  | _ => 0

/-- A number told of each action, summed up over a run. -/
def total (told : Store → StoreAction → Nat) (capacity : Nat) (actions : List StoreAction) : Nat :=
  ((trace perform (empty capacity) actions).map fun met => told met.1 met.2).sum

/-- The keys with entries, the one used last in front. -/
def keys (store : Store) : List String :=
  store.entries.map Prod.fst

section Run

variable (capacity : Nat) (actions : List StoreAction) (action : StoreAction)

theorem run_concat : run capacity (actions ++ [action]) =
    (run capacity actions).perform action := by
  simp [run]

theorem used_concat : used capacity (actions ++ [action]) =
    ((run capacity actions).used? action).toList ++ used capacity actions := by
  have last : (run capacity actions).used? action =
      (actions.foldl perform (empty capacity)).used? action := rfl
  simp only [used, trace_concat, List.filterMap_append, List.reverse_append, last]
  cases used : (actions.foldl perform (empty capacity)).used? action <;>
    simp [used]

theorem total_concat (told : Store → StoreAction → Nat) :
    total told capacity (actions ++ [action]) =
      total told capacity actions + told (run capacity actions) action := by
  simp [total, trace_concat, run]

end Run

variable {store : Store} {key key' : String} {entry : CacheEntry}

theorem mem_keys_iff : key ∈ store.keys ↔ (store.find? key).isSome := by
  rw [find?, List.lookup_isSome_iff, keys, List.mem_map]
  constructor
  · rintro ⟨pair, member, rfl⟩
    exact ⟨pair, member, beq_self_eq_true _⟩
  · rintro ⟨pair, member, same⟩
    exact ⟨pair, member, (eq_of_beq same).symm⟩

theorem not_mem_keys_iff : key ∉ store.keys ↔ store.find? key = none := by
  rw [mem_keys_iff]
  simp

theorem map_others (store : Store) (key : String) :
    (store.others key).map Prod.fst = store.keys.filter (· ≠ key) := by
  rw [others, keys, List.filter_map]
  rfl

theorem keys_read : (store.read key).2.keys =
    if key ∈ store.keys then key :: store.keys.filter (· ≠ key) else store.keys := by
  unfold read
  cases found : store.find? key with
  | none =>
    rw [if_neg (not_mem_keys_iff.mpr found)]
  | some entry =>
    rw [if_pos (mem_keys_iff.mpr (by simp [found]))]
    show key :: (store.others key).map Prod.fst = _
    rw [map_others]

theorem keys_write : (store.write key entry).keys = key ::
    if (store.others key).length < store.capacity then store.keys.filter (· ≠ key)
    else (store.keys.filter (· ≠ key)).take (store.capacity - 1) := by
  rw [← map_others]
  unfold write
  simp only
  split
  · rfl
  · simp [keys, List.map_take]

theorem keys_delete : (store.delete key).keys = store.keys.filter (· ≠ key) :=
  map_others store key

theorem capacity_perform (store : Store) (action : StoreAction) :
    (store.perform action).capacity = store.capacity := by
  cases action with
  | read key =>
    simp only [perform, read]
    split <;> rfl
  | write key entry =>
    simp only [perform, write]
    split <;> rfl
  | delete key => rfl
  | clear => rfl

/-- An action that uses a key puts it in front of what is left of the others, from the front on. -/
theorem keys_perform_of_used {action : StoreAction} (uses : store.used? action = some key) :
    ∃ rest, (store.perform action).keys = key :: rest ∧ rest <+: store.keys.filter (· ≠ key) := by
  cases action with
  | read key' =>
    simp only [used?, Option.ite_none_right_eq_some, Option.some.injEq] at uses
    obtain ⟨found, rfl⟩ := uses
    refine ⟨_, ?_, List.prefix_rfl⟩
    rw [perform, keys_read, if_pos (mem_keys_iff.mpr found)]
  | write key' entry =>
    obtain rfl := Option.some.inj uses
    refine ⟨_, keys_write, ?_⟩
    split
    · exact List.prefix_rfl
    · exact List.take_prefix _ _
  | delete key' => cases uses
  | clear => cases uses

theorem keys_perform_of_unused {action : StoreAction} (unused : store.used? action = none) :
    (store.perform action).keys.Sublist store.keys ∧
      (¬action.Removes → (store.perform action).keys = store.keys) := by
  cases action with
  | read key =>
    have absent : key ∉ store.keys := by
      rw [mem_keys_iff]
      intro found
      simp [used?, found] at unused
    have same : (store.perform (.read key)).keys = store.keys := by
      rw [perform, keys_read, if_neg absent]
    exact ⟨by rw [same], fun _ => same⟩
  | write key entry => cases unused
  | delete key =>
    refine ⟨?_, fun kept => absurd trivial kept⟩
    rw [perform, keys_delete]
    exact List.filter_sublist
  | clear => exact ⟨List.nil_sublist _, fun kept => absurd trivial kept⟩

/-- Where the keys are distinct, one of them fewer is left without the one. -/
theorem length_filter_ne (distinct : store.keys.Nodup) (key : String) :
    (store.keys.filter (· ≠ key)).length =
      if key ∈ store.keys then store.keys.length - 1 else store.keys.length := by
  rw [← List.length_erase, distinct.erase_eq_filter]
  congr 2
  funext other
  simp [bne, Bool.beq_eq_decide_eq]

theorem length_keys_read (distinct : store.keys.Nodup) (key : String) :
    (store.read key).2.keys.length = store.keys.length := by
  rw [keys_read]
  split
  · next present =>
    have some : 0 < store.keys.length := List.length_pos_of_mem present
    rw [List.length_cons, length_filter_ne distinct, if_pos present]
    omega
  · rfl

theorem length_keys_write (positive : 0 < store.capacity) (key : String) (entry : CacheEntry) :
    (store.write key entry).keys.length =
      min store.capacity ((store.keys.filter (· ≠ key)).length + 1) := by
  rw [keys_write, ← map_others, List.length_cons, List.length_map]
  split
  · rw [List.length_map]
    omega
  · rw [List.length_take, List.length_map]
    omega

theorem evictions_read (store : Store) (key : String) :
    (store.read key).2.evictions = store.evictions := by
  unfold read
  split <;> rfl

theorem evictions_write : (store.write key entry).evictions =
    if (store.keys.filter (· ≠ key)).length < store.capacity then store.evictions
    else store.evictions + 1 := by
  rw [← map_others, List.length_map]
  simp only [write]
  split <;> rfl

/-- A pair that lies in two lists, one after the other, lies in the first one, if its end does
not lie in the second one. -/
theorem pair_sublist_of_append {upper lower : List String}
    (before : [key', key].Sublist (upper ++ lower)) (absent : key ∉ lower) :
    [key', key].Sublist upper := by
  obtain ⟨first, second, split, up, low⟩ := List.sublist_append_iff.mp before
  rcases List.eq_nil_or_concat second with rfl | ⟨second, last, rfl⟩
  · rw [List.append_nil] at split
    rw [split]
    exact up
  · have ends := congrArg List.getLast? split
    simp at ends
    exact absurd (low.subset (by simp [ends])) absent

theorem length_le_dedup {distinct : List String} (nodup : distinct.Nodup) (others : List String)
    (subset : distinct ⊆ others) : distinct.length ≤ others.dedup.length := by
  have inside : distinct ⊆ others.dedup := fun key member => List.mem_dedup.mpr (subset member)
  exact (nodup.subperm inside).length_le

/-- A store that holds what was used lately: its keys are distinct and not too many, and each
key that lies in front of another one was used after the last use of that one. -/
structure Recent (limit : Nat) (used : List String) (store : Store) : Prop where
  capacity : store.capacity = limit
  positive : 0 < limit
  distinct : store.keys.Nodup
  few : store.keys.length ≤ limit
  used_after : ∀ key key', [key', key].Sublist store.keys → key' ∈ used.takeWhile (· ≠ key)

/-- Nothing that was used after a key the store has is missing from in front of that key. -/
def Complete (used : List String) (store : Store) : Prop :=
  ∀ key ∈ store.keys, ∀ key' ∈ used.takeWhile (· ≠ key), [key', key].Sublist store.keys

theorem recent_empty (capacity : Nat) : Recent (max capacity 1) [] (empty capacity) where
  capacity := rfl
  positive := Nat.lt_of_lt_of_le Nat.zero_lt_one (Nat.le_max_right _ _)
  distinct := List.nodup_nil
  few := Nat.zero_le _
  used_after := by
    intro key key' before
    have absent : key ∈ ([] : List String) := before.subset (by simp)
    cases absent

variable {limit : Nat} {used : List String}

theorem length_keys_perform (recent : Recent limit used store) (action : StoreAction) :
    (store.perform action).keys.length ≤ limit := by
  have positive : 0 < store.capacity := recent.capacity ▸ recent.positive
  cases action with
  | read key =>
    rw [perform, length_keys_read recent.distinct]
    exact recent.few
  | write key entry =>
    rw [perform, length_keys_write positive, recent.capacity]
    exact Nat.min_le_left _ _
  | delete key =>
    rw [perform, keys_delete]
    exact (List.length_filter_le _ _).trans recent.few
  | clear => exact Nat.zero_le _

theorem Recent.perform (recent : Recent limit used store) (action : StoreAction) :
    Recent limit ((store.used? action).toList ++ used) (store.perform action) := by
  have capacity := (capacity_perform store action).trans recent.capacity
  have few := length_keys_perform recent action
  cases uses : store.used? action with
  | none =>
    have sublist := (keys_perform_of_unused uses).1
    refine ⟨capacity, recent.positive, sublist.nodup recent.distinct, few, ?_⟩
    intro key key' before
    exact recent.used_after key key' (before.trans sublist)
  | some front =>
    obtain ⟨rest, keys, kept⟩ := keys_perform_of_used uses
    have others : ∀ key ∈ rest, key ≠ front := by
      intro key member
      simpa using (List.mem_filter.mp (kept.subset member)).2
    have sublist : rest.Sublist store.keys := kept.sublist.trans List.filter_sublist
    refine ⟨capacity, recent.positive, ?_, few, ?_⟩
    · rw [keys, List.nodup_cons]
      exact ⟨fun member => others front member rfl, sublist.nodup recent.distinct⟩
    · intro key key' before
      rw [keys] at before
      show key' ∈ (front :: used).takeWhile (· ≠ key)
      rcases List.sublist_cons_iff.mp before with inside | ⟨tail, split, inside⟩
      · have different : front ≠ key := (others key (inside.subset (by simp))).symm
        rw [List.takeWhile_cons_of_pos (by simpa using different)]
        exact List.mem_cons_of_mem _ (recent.used_after key key' (inside.trans sublist))
      · obtain ⟨rfl, rfl⟩ := List.cons.inj split
        have different : key' ≠ key := (others key (inside.subset (by simp))).symm
        rw [List.takeWhile_cons_of_pos (by simpa using different)]
        exact List.mem_cons_self

theorem Complete.perform (complete : Complete used store) (recent : Recent limit used store)
    {action : StoreAction} (kept : ¬action.Removes) :
    Complete ((store.used? action).toList ++ used) (store.perform action) := by
  cases uses : store.used? action with
  | none =>
    rw [Complete, (keys_perform_of_unused uses).2 kept]
    exact complete
  | some front =>
    obtain ⟨rest, keys, tail, filtered⟩ := keys_perform_of_used uses
    intro key present key' after
    rw [keys] at present ⊢
    have after : key' ∈ (front :: used).takeWhile (· ≠ key) := after
    have different : front ≠ key := by
      rintro rfl
      simp at after
    have member : key ∈ rest := (List.mem_cons.mp present).resolve_left different.symm
    by_cases first : key' = front
    · subst first
      exact (List.singleton_sublist.mpr member).cons_cons key'
    · rw [List.takeWhile_cons_of_pos (by simpa using different)] at after
      have after := (List.mem_cons.mp after).resolve_left first
      have inside : key ∈ store.keys.filter (· ≠ front) := by
        rw [← filtered]
        exact List.mem_append_left _ member
      have before := complete key (List.mem_filter.mp inside).1 key' after
      have before := before.filter (· ≠ front)
      rw [List.filter_cons_of_pos (by simpa using first),
        List.filter_cons_of_pos (by simpa using different.symm), List.filter_nil, ← filtered] at before
      -- The key is not among those that were dropped, for it stands once only.
      have distinct : (rest ++ tail).Nodup := by
        rw [filtered]
        exact recent.distinct.filter _
      have absent : key ∉ tail := fun dropped =>
        List.disjoint_of_nodup_append distinct member dropped
      exact (pair_sublist_of_append before absent).cons front

theorem recent_run (capacity : Nat) (actions : List StoreAction) :
    Recent (max capacity 1) (Store.used capacity actions) (run capacity actions) := by
  induction actions using List.reverseRecOn with
  | nil => exact recent_empty capacity
  | append_singleton actions action ih =>
    rw [run_concat, used_concat]
    exact ih.perform action

theorem complete_run (capacity : Nat) {actions : List StoreAction}
    (kept : ∀ action ∈ actions, ¬action.Removes) :
    Complete (Store.used capacity actions) (run capacity actions) := by
  induction actions using List.reverseRecOn with
  | nil =>
    intro key member
    exact absurd member List.not_mem_nil
  | append_singleton actions action ih =>
    rw [run_concat, used_concat]
    have complete := ih fun action member => kept action (List.mem_append_left _ member)
    exact complete.perform (recent_run capacity actions) (kept action (by simp))

/-- An action that does not settle what a key has leaves the entry there or drops it. -/
theorem find?_of_perform {action : StoreAction} (unsettled : ¬action.Settles key)
    (found : (store.perform action).find? key = some entry) : store.find? key = some entry := by
  cases action with
  | read key' =>
    rw [← found]
    exact (find?_read store key' key).symm
  | write key' entry' => exact find?_of_write (fun same => unsettled same.symm) found
  | delete key' =>
    rw [← found]
    exact (find?_delete_of_ne fun same => unsettled same.symm).symm
  | clear => exact absurd trivial unsettled

/-- A key that a write drops was used before as many other keys as there is room for. -/
theorem limit_le_of_dropped (recent : Recent limit used store) {front : String}
    {entry' : CacheEntry} (different : key ≠ front) (present : key ∈ store.keys)
    (lost : key ∉ (store.write front entry').keys) :
    limit ≤ ((front :: used).takeWhile (· ≠ key)).dedup.length := by
  have member : key ∈ store.keys.filter (· ≠ front) := by
    simp [List.mem_filter, present, different]
  rw [keys_write, recent.capacity, List.mem_cons, not_or] at lost
  have lost := lost.2
  split at lost
  · exact absurd member lost
  · next full =>
    rw [← List.length_map (f := Prod.fst), map_others] at full
    have split := List.take_append_drop (limit - 1) (store.keys.filter (· ≠ front))
    have last : key ∈ (store.keys.filter (· ≠ front)).drop (limit - 1) := by
      rw [← split] at member
      exact (List.mem_append.mp member).resolve_left lost
    -- All that stays lies in front of the key, so it was used after the key.
    have after : ∀ other ∈ (store.keys.filter (· ≠ front)).take (limit - 1),
        other ∈ used.takeWhile (· ≠ key) := by
      intro other stays
      have before := (List.singleton_sublist.mpr stays).append (List.singleton_sublist.mpr last)
      rw [split] at before
      exact recent.used_after key other (before.trans List.filter_sublist)
    have stayed := List.take_sublist (limit - 1) (store.keys.filter (· ≠ front))
    have distinct : (front :: (store.keys.filter (· ≠ front)).take (limit - 1)).Nodup := by
      rw [List.nodup_cons]
      refine ⟨fun member => ?_, stayed.nodup (recent.distinct.filter _)⟩
      simpa using (List.mem_filter.mp (stayed.subset member)).2
    rw [List.takeWhile_cons_of_pos (by simpa using different.symm)]
    have many := length_le_dedup distinct (front :: used.takeWhile (· ≠ key)) <| by
      intro other member
      rcases List.mem_cons.mp member with rfl | member
      · exact List.mem_cons_self
      · exact List.mem_cons_of_mem _ (after other member)
    rw [List.length_cons, List.length_take] at many
    have positive := recent.positive
    omega

/-- An entry is not dropped while few other keys were used since its own last use. -/
theorem find?_perform (recent : Recent limit used store) {action : StoreAction}
    (unsettled : ¬action.Settles key) (found : store.find? key = some entry)
    (few : (((store.used? action).toList ++ used).takeWhile (· ≠ key)).dedup.length < limit) :
    (store.perform action).find? key = some entry := by
  cases action with
  | read key' =>
    rw [← found]
    exact find?_read store key' key
  | delete key' =>
    rw [← found]
    exact find?_delete_of_ne fun same => unsettled same.symm
  | clear => exact absurd trivial unsettled
  | write front entry' =>
    have different : key ≠ front := fun same => unsettled same.symm
    cases stays : (store.write front entry').find? key with
    | some entry'' =>
      rw [← found, find?_of_write different stays]
      exact stays
    | none =>
      have present : key ∈ store.keys := mem_keys_iff.mpr (by simp [found])
      have many := limit_le_of_dropped recent different present (not_mem_keys_iff.mpr stays)
      exact absurd few (Nat.not_lt.mpr many)

/-- An action that uses a key without settling what it has is a read that finds an entry. -/
theorem isSome_of_used {action : StoreAction} (unsettled : ¬action.Settles key)
    (uses : store.used? action = some key) : (store.find? key).isSome := by
  cases action with
  | read key' =>
    simp only [used?, Option.ite_none_right_eq_some, Option.some.injEq] at uses
    obtain ⟨present, rfl⟩ := uses
    exact present
  | write key' entry' => exact absurd (Option.some.inj uses) unsettled
  | delete key' => cases uses
  | clear => cases uses

theorem usedSince_le_cons {front : String} (different : front ≠ key) (used : List String) :
    (used.takeWhile (· ≠ key)).dedup.length ≤
      ((front :: used).takeWhile (· ≠ key)).dedup.length := by
  refine length_le_dedup (List.nodup_dedup _) _ fun other member => ?_
  rw [List.takeWhile_cons_of_pos (by simpa using different)]
  exact List.mem_cons_of_mem _ (List.mem_dedup.mp member)

/-- The entry written last is what a store has under a key, and it has it as long as few other
keys were used since the last use of that key. -/
theorem find?_run (capacity : Nat) (early : List StoreAction) (key : String) (entry : CacheEntry)
    (late : List StoreAction) (unsettled : ∀ action ∈ late, ¬action.Settles key) :
    (∀ entry', (run capacity (early ++ .write key entry :: late)).find? key = some entry' →
      entry' = entry) ∧
    ((usedSince capacity (early ++ .write key entry :: late) key).length < max capacity 1 →
      (run capacity (early ++ .write key entry :: late)).find? key = some entry) := by
  induction late using List.reverseRecOn with
  | nil =>
    have written : (run capacity (early ++ [.write key entry])).find? key = some entry := by
      rw [run_concat]
      exact find?_write_self _ key entry
    refine ⟨fun entry' found => ?_, fun _ => written⟩
    rw [written] at found
    exact (Option.some.inj found).symm
  | append_singleton late action ih =>
    obtain ⟨only, stays⟩ := ih fun action member => unsettled action (List.mem_append_left _ member)
    have unsettled : ¬action.Settles key := unsettled action (by simp)
    rw [← List.cons_append, ← List.append_assoc, run_concat, usedSince, used_concat]
    generalize early ++ .write key entry :: late = actions at only stays ⊢
    have recent := recent_run capacity actions
    refine ⟨fun entry' found => only entry' (find?_of_perform unsettled found), fun few => ?_⟩
    refine find?_perform recent unsettled ?_ few
    cases uses : (run capacity actions).used? action with
    | none =>
      rw [uses] at few
      exact stays few
    | some front =>
      by_cases same : front = key
      · -- The entry is there whatever else was used before, for a read has found it.
        subst same
        obtain ⟨entry', found⟩ := Option.isSome_iff_exists.mp (isSome_of_used unsettled uses)
        rw [found, only entry' found]
      · rw [uses] at few
        exact stays (Nat.lt_of_le_of_lt (usedSince_le_cons same _) few)

/-- Without removals an entry is gone once as many other keys were used as there is room for. -/
theorem find?_run_eq_none (capacity : Nat) {actions : List StoreAction}
    (kept : ∀ action ∈ actions, ¬action.Removes) {key : String}
    (many : max capacity 1 ≤ (usedSince capacity actions key).length) :
    (run capacity actions).find? key = none := by
  rw [← not_mem_keys_iff]
  intro member
  have recent := recent_run capacity actions
  have complete := complete_run capacity kept key member
  have distinct : (key :: usedSince capacity actions key).Nodup := by
    rw [List.nodup_cons]
    refine ⟨fun again => ?_, List.nodup_dedup _⟩
    simpa using List.mem_takeWhile_imp (List.mem_dedup.mp again)
  have inside : key :: usedSince capacity actions key ⊆ (run capacity actions).keys := by
    intro key' member'
    rcases List.mem_cons.mp member' with rfl | after
    · exact member
    · exact (complete key' (List.mem_dedup.mp after)).subset List.mem_cons_self
  have bound := (distinct.subperm inside).length_le
  have few := recent.few
  rw [List.length_cons] at bound
  omega

/-- An action keeps the balance of entries added, kept, dropped and removed. -/
theorem balance_perform (recent : Recent limit used store) (action : StoreAction) :
    (store.perform action).keys.length + (store.perform action).evictions +
        store.deleted action + store.cleared action =
      store.keys.length + store.evictions + store.added action := by
  have positive : 0 < store.capacity := recent.capacity ▸ recent.positive
  have few := recent.few
  rw [← recent.capacity] at few
  cases action with
  | read key =>
    rw [perform, length_keys_read recent.distinct, evictions_read]
    rfl
  | write key entry =>
    have others := length_filter_ne recent.distinct key
    have added : store.added (.write key entry) = if key ∈ store.keys then 0 else 1 := by
      simp only [added, mem_keys_iff]
    rw [perform, length_keys_write positive, evictions_write, added]
    show _ + _ + 0 + 0 = _
    by_cases present : key ∈ store.keys
    · have some : 0 < store.keys.length := List.length_pos_of_mem present
      rw [if_pos present] at others ⊢
      rw [if_pos (by omega)]
      omega
    · rw [if_neg present] at others ⊢
      split <;> omega
  | delete key =>
    have deleted : store.deleted (.delete key) = if key ∈ store.keys then 1 else 0 := by
      simp only [deleted, mem_keys_iff]
    rw [deleted, perform, keys_delete, length_filter_ne recent.distinct]
    show _ + store.evictions + _ + 0 = _ + store.evictions + 0
    split
    · next present =>
      have some : 0 < store.keys.length := List.length_pos_of_mem present
      omega
    · omega
  | clear =>
    show 0 + store.evictions + 0 + store.entries.length = store.keys.length + store.evictions + 0
    rw [keys, List.length_map]
    omega

theorem balance_run (capacity : Nat) (actions : List StoreAction) :
    total added capacity actions = (run capacity actions).size +
      (run capacity actions).evictions + total deleted capacity actions +
      total cleared capacity actions := by
  induction actions using List.reverseRecOn with
  | nil => rfl
  | append_singleton actions action ih =>
    have size (store : Store) : store.size = store.keys.length := (List.length_map _).symm
    have balance := balance_perform (recent_run capacity actions) action
    rw [size] at ih
    rw [total_concat, total_concat, total_concat, run_concat, size, ih]
    omega

/-- Whatever is done to a store with room for some entries, and for one at least: its keys are
distinct and not too many. What was written last under a key is read as long as it was not
removed and fewer other keys were used since the last use of that key than there is room for;
if nothing is ever removed, it is not read any more once there are as many. Every entry ever
added is there, was dropped to make room, was deleted, or was cleared away. -/
theorem run_keeps_recent (capacity : Nat) (actions : List StoreAction) :
    (run capacity actions).keys.Nodup ∧
    (run capacity actions).size ≤ max capacity 1 ∧
    (∀ early key entry late, actions = early ++ .write key entry :: late →
      (∀ action ∈ late, ¬action.Settles key) →
      (usedSince capacity actions key).length < max capacity 1 →
      ((run capacity actions).read key).1 = some entry) ∧
    ((∀ action ∈ actions, ¬action.Removes) → ∀ key,
      max capacity 1 ≤ (usedSince capacity actions key).length →
      ((run capacity actions).read key).1 = none) ∧
    total added capacity actions = (run capacity actions).size +
      (run capacity actions).evictions + total deleted capacity actions +
      total cleared capacity actions := by
  have recent := recent_run capacity actions
  refine ⟨recent.distinct, ?_, ?_, ?_, balance_run capacity actions⟩
  · have few := recent.few
    rwa [keys, List.length_map] at few
  · intro early key entry late split unsettled few
    subst split
    rw [fst_read]
    exact (find?_run capacity early key entry late unsettled).2 few
  · intro kept key many
    rw [fst_read]
    exact find?_run_eq_none capacity kept many

end Store

end Statbook
