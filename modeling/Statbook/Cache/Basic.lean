import Statbook.Cache.Store

/-!
# The cache

Values with a time to live over a store. Whether an entry has expired is looked at only when
it is read, and an entry found expired is deleted. The cache counts what happens to it.
-/

namespace Statbook

/-- What has happened to a cache. -/
structure CacheCounts where
  hits : Nat
  misses : Nat
  writes : Nat
  expirations : Nat
  deriving DecidableEq, Repr

/-- The share of reads that found a value; none without reads. -/
def CacheCounts.hitRate (counts : CacheCounts) : Float :=
  let reads := counts.hits + counts.misses
  if reads = 0 then 0.0 else Float.ofNat counts.hits / Float.ofNat reads

/-- A store of values with times to live, and the counts of its use. -/
structure Cache where
  store : Store
  counts : CacheCounts

namespace Cache

/-- A cache without entries. -/
def empty (capacity : Nat) : Cache :=
  ⟨Store.empty capacity, ⟨0, 0, 0, 0⟩⟩

/-- The value of a key that has not expired. -/
def get (cache : Cache) (now : Timestamp) (key : String) : Option StatValue × Cache :=
  match cache.store.read key with
  | (none, store) =>
    (none, { store, counts := { cache.counts with misses := cache.counts.misses + 1 } })
  | (some entry, store) =>
    if entry.isExpired now then
      (none, { store := store.delete key, counts := { cache.counts with
        misses := cache.counts.misses + 1
        expirations := cache.counts.expirations + 1 } })
    else
      (some entry.value, { store, counts := { cache.counts with hits := cache.counts.hits + 1 } })

/-- The cache with the value of a key set for so long. -/
def put (cache : Cache) (now : Timestamp) (key : String) (value : StatValue)
    (ttl : Duration) : Cache where
  store := cache.store.write key ⟨value, now.addSaturating ttl⟩
  counts := { cache.counts with writes := cache.counts.writes + 1 }

/-- The cache without the value of a key. -/
def invalidate (cache : Cache) (key : String) : Cache :=
  { cache with store := cache.store.delete key }

/-- The cache without values. -/
def clear (cache : Cache) : Cache :=
  { cache with store := cache.store.clear }

end Cache

end Statbook
