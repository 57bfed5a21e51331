import Statbook.Cache.Basic

/-!
# What a cache holds

A property that ties the keys of a cache to the values under them is kept by everything that
is done to the cache: entries are moved, dropped or deleted, and only a write adds one.
-/

namespace Statbook

namespace Store

variable {store : Store} {key : String} {pair : String × CacheEntry}

theorem mem_of_find? {entry : CacheEntry} (found : store.find? key = some entry) :
    (key, entry) ∈ store.entries := by
  obtain ⟨before, after, split, -⟩ := List.lookup_eq_some_iff.mp found
  simp [split]

theorem mem_of_mem_others (member : pair ∈ store.others key) : pair ∈ store.entries :=
  (List.mem_filter.mp member).1

theorem lookup_others_self (store : Store) (key : String) :
    (store.others key).lookup key = none := by
  rw [List.lookup_eq_none_iff]
  intro pair member
  have different : pair.1 ≠ key := by simpa [others] using (List.mem_filter.mp member).2
  simpa using different.symm

theorem lookup_others_of_ne {key' : String} (different : key' ≠ key) :
    (store.others key).lookup key' = store.find? key' := by
  unfold others find?
  induction store.entries with
  | nil => rfl
  | cons pair pairs ih =>
    by_cases dropped : pair.1 = key
    · have passed : (key' == pair.1) = false := by simpa [dropped] using different
      rw [List.filter_cons_of_neg (by simpa using dropped), ih, List.lookup_cons, passed]
    · rw [List.filter_cons_of_pos (by simpa using dropped), List.lookup_cons, List.lookup_cons, ih]

theorem lookup_cons_of_ne {key' : String} (different : key' ≠ key) (entry : CacheEntry)
    (pairs : List (String × CacheEntry)) :
    List.lookup key' ((key, entry) :: pairs) = pairs.lookup key' := by
  have passed : (key' == key) = false := by simpa using different
  rw [List.lookup_cons, passed]

theorem fst_read (store : Store) (key : String) : (store.read key).1 = store.find? key := by
  unfold read
  cases store.find? key <;> rfl

/-- A read changes the order of the entries only. -/
theorem find?_read (store : Store) (key key' : String) :
    (store.read key).2.find? key' = store.find? key' := by
  unfold read
  cases found : store.find? key with
  | none => rfl
  | some entry =>
    by_cases same : key' = key
    · subst same
      rw [found]
      exact List.lookup_cons_self
    · show List.lookup key' ((key, entry) :: store.others key) = _
      rw [lookup_cons_of_ne same, lookup_others_of_ne same]

theorem find?_write_self (store : Store) (key : String) (entry : CacheEntry) :
    (store.write key entry).find? key = some entry := by
  unfold write
  simp only
  split <;> exact List.lookup_cons_self

/-- A write may drop the entry of another key, but does not change it. -/
theorem find?_of_write {key' : String} {entry entry' : CacheEntry} (different : key' ≠ key)
    (found : (store.write key entry).find? key' = some entry') :
    store.find? key' = some entry' := by
  unfold write at found
  simp only at found
  split at found
  · have found : List.lookup key' ((key, entry) :: store.others key) = some entry' := found
    rwa [lookup_cons_of_ne different, lookup_others_of_ne different] at found
  · have found : List.lookup key' ((key, entry) :: (store.others key).take (store.capacity - 1)) =
        some entry' := found
    rw [lookup_cons_of_ne different] at found
    have all := List.take_append_drop (store.capacity - 1) (store.others key)
    rw [← lookup_others_of_ne different, ← all, List.lookup_append, found]
    rfl

theorem find?_delete_self (store : Store) (key : String) : (store.delete key).find? key = none :=
  lookup_others_self store key

theorem find?_delete_of_ne {key' : String} (different : key' ≠ key) :
    (store.delete key).find? key' = store.find? key' :=
  lookup_others_of_ne different

/-- A read drops no entry and adds none. -/
theorem mem_of_mem_read (member : pair ∈ (store.read key).2.entries) : pair ∈ store.entries := by
  unfold read at member
  cases found : store.find? key with
  | none => simpa [found] using member
  | some entry =>
    rw [found] at member
    rcases List.mem_cons.mp member with rfl | member
    · exact mem_of_find? found
    · exact mem_of_mem_others member

/-- A write adds its entry only; others may be dropped to make room. -/
theorem mem_of_mem_write {entry : CacheEntry} (member : pair ∈ (store.write key entry).entries) :
    pair = (key, entry) ∨ pair ∈ store.entries := by
  unfold write at member
  simp only at member
  split at member
  · exact (List.mem_cons.mp member).imp_right mem_of_mem_others
  · exact (List.mem_cons.mp member).imp_right fun kept =>
      mem_of_mem_others (List.mem_of_mem_take kept)

end Store

namespace Cache

/-- Every entry in the cache stands in the relation to its key. -/
def Holds (right : String × CacheEntry → Prop) (cache : Cache) : Prop :=
  ∀ pair ∈ cache.store.entries, right pair

/-- Every value in the cache stands in the relation to its key. -/
def All (right : String → StatValue → Prop) (cache : Cache) : Prop :=
  ∀ pair ∈ cache.store.entries, right pair.1 pair.2.value

variable {cache : Cache}

variable {now : Timestamp} {key : String} {entry : CacheEntry}

theorem get_of_absent (absent : cache.store.find? key = none) :
    cache.get now key =
      (none, { cache with counts := { cache.counts with misses := cache.counts.misses + 1 } }) := by
  simp [Cache.get, Store.read, absent]

theorem get_of_expired (found : cache.store.find? key = some entry)
    (expired : entry.isExpired now = true) :
    cache.get now key = (none, {
      store := (cache.store.read key).2.delete key
      counts := { cache.counts with
        misses := cache.counts.misses + 1
        expirations := cache.counts.expirations + 1 } }) := by
  simp [Cache.get, Store.read, found, expired]

theorem get_of_live (found : cache.store.find? key = some entry)
    (live : entry.isExpired now = false) :
    cache.get now key = (some entry.value, {
      store := (cache.store.read key).2
      counts := { cache.counts with hits := cache.counts.hits + 1 } }) := by
  simp [Cache.get, Store.read, found, live]

/-- A read is answered with the value of an entry that has not expired, and with nothing else. -/
theorem fst_get_eq_some_iff {value : StatValue} : (cache.get now key).1 = some value ↔
    ∃ entry, cache.store.find? key = some entry ∧ now < entry.expiresAt ∧ entry.value = value := by
  cases found : cache.store.find? key with
  | none => simp [get_of_absent found]
  | some entry =>
    cases expired : entry.isExpired now with
    | true =>
      have late : ¬now < entry.expiresAt := by simpa [CacheEntry.isExpired] using expired
      simp [get_of_expired found expired, late]
    | false =>
      have early : now < entry.expiresAt := by simpa [CacheEntry.isExpired] using expired
      simp [get_of_live found expired, early]

/-- A read leaves every entry as it is, or takes away the one it finds expired. -/
theorem find?_of_get {key' : String} (found : (cache.get now key').2.store.find? key = some entry) :
    cache.store.find? key = some entry := by
  cases there : cache.store.find? key' with
  | none => rwa [get_of_absent there] at found
  | some entry' =>
    cases expired : entry'.isExpired now with
    | false =>
      rw [get_of_live there expired] at found
      rwa [← Store.find?_read cache.store key' key]
    | true =>
      rw [get_of_expired there expired] at found
      by_cases same : key = key'
      · subst same
        rw [Store.find?_delete_self] at found
        cases found
      · rwa [Store.find?_delete_of_ne same, Store.find?_read] at found

theorem find?_get_of_live (found : cache.store.find? key = some entry)
    (live : entry.isExpired now = false) (key' : String) :
    (cache.get now key').2.store.find? key = some entry := by
  cases there : cache.store.find? key' with
  | none => rwa [get_of_absent there]
  | some entry' =>
    cases expired : entry'.isExpired now with
    | false => rwa [get_of_live there expired, Store.find?_read]
    | true =>
      have different : key ≠ key' := by
        rintro rfl
        rw [Option.some.inj (found.symm.trans there), expired] at live
        cases live
      rwa [get_of_expired there expired, Store.find?_delete_of_ne different, Store.find?_read]

/-- A read changes nothing about what else is read at that moment. -/
theorem fst_get_get (cache : Cache) (now : Timestamp) (key' key : String) :
    ((cache.get now key').2.get now key).1 = (cache.get now key).1 := by
  refine Option.ext fun value => ?_
  rw [fst_get_eq_some_iff, fst_get_eq_some_iff]
  constructor
  · rintro ⟨entry, found, timely, worth⟩
    exact ⟨entry, find?_of_get found, timely, worth⟩
  · rintro ⟨entry, found, timely, worth⟩
    have live : entry.isExpired now = false := by simpa [CacheEntry.isExpired] using timely
    exact ⟨entry, find?_get_of_live found live key', timely, worth⟩

section Holds

variable {right right' : String × CacheEntry → Prop}

theorem holds_empty (capacity : Nat) : Holds right (.empty capacity) :=
  fun _ member => absurd member List.not_mem_nil

theorem Holds.mono (holds : Holds right cache) (implies : ∀ pair, right pair → right' pair) :
    Holds right' cache :=
  fun pair member => implies pair (holds pair member)

theorem Holds.get (holds : Holds right cache) (now : Timestamp) (key : String) :
    Holds right (cache.get now key).2 := by
  have kept : ∀ pair ∈ (cache.store.read key).2.entries, right pair :=
    fun pair member => holds pair (Store.mem_of_mem_read member)
  cases found : cache.store.find? key with
  | none =>
    rw [get_of_absent found]
    exact holds
  | some entry =>
    cases expired : entry.isExpired now with
    | true =>
      rw [get_of_expired found expired]
      exact fun pair member => kept pair (Store.mem_of_mem_others member)
    | false =>
      rw [get_of_live found expired]
      exact kept

theorem Holds.put (holds : Holds right cache) {now : Timestamp} {key : String} {value : StatValue}
    {ttl : Duration} (new : right (key, ⟨value, now.addSaturating ttl⟩)) :
    Holds right (cache.put now key value ttl) := by
  intro pair member
  rcases Store.mem_of_mem_write member with rfl | member
  · exact new
  · exact holds pair member

theorem Holds.invalidate (holds : Holds right cache) (key : String) :
    Holds right (cache.invalidate key) :=
  fun pair member => holds pair (Store.mem_of_mem_others member)

theorem Holds.clear (cache : Cache) : Holds right cache.clear :=
  fun _ member => absurd member List.not_mem_nil

end Holds

section All

variable {right : String → StatValue → Prop}

theorem all_empty (capacity : Nat) : All right (.empty capacity) :=
  holds_empty capacity

/-- What is found in the cache is right, and so is what stays in it. -/
theorem All.get (all : All right cache) (now : Timestamp) (key : String) :
    All right (cache.get now key).2 ∧
      ∀ value, (cache.get now key).1 = some value → right key value := by
  refine ⟨Holds.get all now key, fun value answered => ?_⟩
  obtain ⟨entry, found, -, rfl⟩ := fst_get_eq_some_iff.mp answered
  exact all _ (Store.mem_of_find? found)

theorem All.put (all : All right cache) (now : Timestamp) {key : String} {value : StatValue}
    (new : right key value) (ttl : Duration) : All right (cache.put now key value ttl) :=
  Holds.put all new

theorem All.invalidate (all : All right cache) (key : String) : All right (cache.invalidate key) :=
  Holds.invalidate all key

theorem All.clear (cache : Cache) : All right cache.clear :=
  Holds.clear cache

end All

end Cache

end Statbook
