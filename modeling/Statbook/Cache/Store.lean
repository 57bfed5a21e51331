import Statbook.Json.Value
import Statbook.Calendar.Layout
import Statbook.Stat.Value

/-!
# The store of cached values

A store keeps a bounded number of entries by key, the one used last in front. Reading and
writing an entry both use it; a write that finds the store full drops the entry that has not
been used for longest.
-/

namespace Statbook

/-- A cached value and the moment from which on it no longer counts. -/
structure CacheEntry where
  value : StatValue
  expiresAt : Timestamp
  deriving DecidableEq

/-- An entry has expired once its moment has come. -/
def CacheEntry.isExpired (entry : CacheEntry) (now : Timestamp) : Bool :=
  ¬ now < entry.expiresAt

/-- An entry as JSON. -/
def CacheEntry.toJson (entry : CacheEntry) : Json :=
  .object [("value", entry.value.toJson), ("expires_at", .text entry.expiresAt.jsonText)]

/-- Entries by key, the one used last in front. -/
structure Store where
  capacity : Nat
  entries : List (String × CacheEntry)
  /-- The number of entries dropped to make room for others. -/
  evictions : Nat

namespace Store

/-- A store without entries; it holds one entry at least. -/
def empty (capacity : Nat) : Store :=
  ⟨max capacity 1, [], 0⟩

/-- The entry of a key. -/
def find? (store : Store) (key : String) : Option CacheEntry :=
  store.entries.lookup key

/-- The number of entries. -/
def size (store : Store) : Nat :=
  store.entries.length

/-- The entries of all keys but one. -/
def others (store : Store) (key : String) : List (String × CacheEntry) :=
  store.entries.filter fun pair => pair.1 ≠ key

/-- The entry of a key, which is the one used last from now on. -/
def read (store : Store) (key : String) : Option CacheEntry × Store :=
  match store.find? key with
  | none => (none, store)
  | some entry => (some entry, { store with entries := (key, entry) :: store.others key })

/-- The store with the entry of a key set, as the one used last. -/
def write (store : Store) (key : String) (entry : CacheEntry) : Store :=
  let others := store.others key
  if others.length < store.capacity then { store with entries := (key, entry) :: others }
  else { store with
    entries := (key, entry) :: others.take (store.capacity - 1)
    evictions := store.evictions + 1 }

/-- The store without the entry of a key. -/
def delete (store : Store) (key : String) : Store :=
  { store with entries := store.others key }

/-- The store without entries; what was dropped before stays counted. -/
def clear (store : Store) : Store :=
  { store with entries := [] }

end Store

end Statbook
