import Mathlib.Data.List.Induction
import Mathlib.Data.List.Sort
import Statbook.Registry.Basic
import Statbook.Proofs.Text.Bytes

/-!
# One form for the same filters

Filters that are put together from a list of pairs hold for each key the value that the list gives
it last, in the order of the bytes of the keys. Nothing else of the list is left in them, so lists
that give every key the same last value make the same filters, and all that is made of filters:
their JSON text, fingerprints and queries.
-/

namespace Statbook

namespace Filters

variable {filters filters' : Filters} {pairs pairs' : List (String × FilterValue)} {key : String}
  {value : FilterValue}

/-- The pairs give the key this value, and none of them gives it a value after that. -/
def SetsLast (pairs : List (String × FilterValue)) (key : String) (value : FilterValue) : Prop :=
  ∃ before after, pairs = before ++ (key, value) :: after ∧ ∀ pair ∈ after, pair.1 ≠ key

theorem lookup_pair (key : String) (pair : String × FilterValue)
    (pairs : List (String × FilterValue)) :
    (pair :: pairs).lookup key = if key = pair.1 then some pair.2 else pairs.lookup key := by
  by_cases same : key = pair.1
  · rw [List.lookup_cons, same, beq_self_eq_true, if_pos rfl]
  · rw [List.lookup_cons, beq_false_of_ne same, if_neg same]

/-- Where a pair is put, its key has its value, and all other keys have theirs as before. -/
theorem lookup_insertPair (key other : String) (value : FilterValue)
    (pairs : List (String × FilterValue)) : (insertPair key value pairs).lookup other =
      if other = key then some value else pairs.lookup other := by
  induction pairs with
  | nil => exact lookup_pair other (key, value) []
  | cons pair pairs ih =>
    unfold insertPair
    split
    · exact lookup_pair other (key, value) _
    · split
      · next replaced =>
        rw [lookup_pair, lookup_pair, ← replaced]
        by_cases same : other = key
        · rw [if_pos same, if_pos same]
        · rw [if_neg same, if_neg same, if_neg same]
      · next different =>
        rw [lookup_pair, lookup_pair, ih]
        by_cases first : other = pair.1
        · have another : other ≠ key := fun same => different (same.symm.trans first)
          rw [if_pos first, if_neg another, if_pos first]
        · rw [if_neg first, if_neg first]

theorem get?_insert (filters : Filters) (key other : String) (value : FilterValue) :
    (filters.insert key value).get? other =
      if other = key then some value else filters.get? other :=
  lookup_insertPair key other value filters.pairs

theorem ofList_concat (pairs : List (String × FilterValue)) (pair : String × FilterValue) :
    ofList (pairs ++ [pair]) = (ofList pairs).insert pair.1 pair.2 := by
  rw [ofList, List.foldl_append]
  rfl

/-- A key is looked up from the end of the list. -/
theorem get?_ofList (pairs : List (String × FilterValue)) (key : String) :
    (ofList pairs).get? key = pairs.reverse.lookup key := by
  induction pairs using List.reverseRecOn with
  | nil => rfl
  | append_singleton pairs pair ih =>
    rw [ofList_concat, get?_insert, List.reverse_append, List.reverse_singleton,
      List.singleton_append, lookup_pair, ih]

theorem setsLast_iff : SetsLast pairs key value ↔ pairs.reverse.lookup key = some value := by
  rw [List.lookup_eq_some_iff]
  constructor
  · rintro ⟨before, after, rfl, last⟩
    refine ⟨after.reverse, before.reverse, by simp, ?_⟩
    intro pair member
    have other := last pair (List.mem_reverse.mp member)
    exact bne_iff_ne.mpr (Ne.symm other)
  · rintro ⟨after, before, split, last⟩
    refine ⟨before.reverse, after.reverse, ?_, ?_⟩
    · rw [← List.reverse_reverse pairs, split]
      simp
    · intro pair member
      exact Ne.symm (bne_iff_ne.mp (last pair (List.mem_reverse.mp member)))

/-- A key has the value that the list gives it last. -/
theorem get?_ofList_eq_some_iff :
    (ofList pairs).get? key = some value ↔ SetsLast pairs key value := by
  rw [get?_ofList, setsLast_iff]

/-- The pairs of filters are the keys with their values: no key stands there twice. -/
theorem mem_pairs_iff : (key, value) ∈ filters.pairs ↔ filters.get? key = some value := by
  rw [get?, List.lookup_eq_some_iff]
  constructor
  · intro member
    obtain ⟨before, after, split⟩ := List.append_of_mem member
    refine ⟨before, after, split, ?_⟩
    intro pair earlier
    have ascending := filters.ascending
    rw [split] at ascending
    have less : pair.1 < key :=
      (List.pairwise_append.mp ascending).2.2 pair earlier (key, value) List.mem_cons_self
    apply bne_iff_ne.mpr
    rintro rfl
    exact String.lt_irrefl _ less
  · rintro ⟨before, after, split, -⟩
    rw [split]
    exact List.mem_append_right before List.mem_cons_self

/-- Filters that have the same value for every key are the same. -/
theorem eq_of_get? (same : ∀ key, filters.get? key = filters'.get? key) : filters = filters' := by
  have antisymm : Std.Antisymm fun p q : String × FilterValue => p.1 < q.1 :=
    ⟨fun p q less greater => absurd (String.lt_trans less greater) (String.lt_irrefl p.1)⟩
  have irrefl : Std.Irrefl fun p q : String × FilterValue => p.1 < q.1 :=
    ⟨fun p => String.lt_irrefl p.1⟩
  have pairs : filters.pairs = filters'.pairs := by
    apply filters.ascending.eq_of_mem_iff filters'.ascending
    rintro ⟨key, value⟩
    rw [mem_pairs_iff, mem_pairs_iff, same key]
  obtain ⟨pairs, ascending⟩ := filters
  obtain ⟨pairs', ascending'⟩ := filters'
  congr

/-- Only the last value of each key is left of a list. -/
theorem ofList_eq_iff : ofList pairs = ofList pairs' ↔
    ∀ key value, SetsLast pairs key value ↔ SetsLast pairs' key value := by
  constructor
  · intro same key value
    rw [← get?_ofList_eq_some_iff, same, get?_ofList_eq_some_iff]
  · intro last
    apply eq_of_get?
    intro key
    apply Option.ext
    intro value
    rw [get?_ofList_eq_some_iff, get?_ofList_eq_some_iff, last key value]

/-- Where no key is given two values, the last one is the only one. -/
theorem setsLast_iff_mem (single : (pairs.map Prod.fst).Nodup) :
    SetsLast pairs key value ↔ (key, value) ∈ pairs := by
  constructor
  · rintro ⟨before, after, rfl, -⟩
    exact List.mem_append_right before List.mem_cons_self
  · intro member
    obtain ⟨before, after, rfl⟩ := List.append_of_mem member
    refine ⟨before, after, rfl, ?_⟩
    intro pair later same
    rw [List.map_append, List.map_cons] at single
    have fresh := (List.nodup_cons.mp (List.nodup_append.mp single).2.1).1
    exact fresh (List.mem_map.mpr ⟨pair, later, same⟩)

theorem ofList_eq_of_perm (reordered : pairs.Perm pairs') (single : (pairs.map Prod.fst).Nodup) :
    ofList pairs = ofList pairs' := by
  have single' : (pairs'.map Prod.fst).Nodup := (reordered.map Prod.fst).nodup single
  rw [ofList_eq_iff]
  intro key value
  rw [setsLast_iff_mem single, setsLast_iff_mem single', reordered.mem_iff]

theorem bytes_ascending (filters : Filters) :
    (filters.pairs.map fun pair => Text.bytes pair.1).Pairwise (· < ·) := by
  rw [List.pairwise_map]
  apply filters.ascending.imp
  intro p q less
  exact (Text.lt_iff_bytes_lt p.1 q.1).mp less

/-- Filters list their keys in the order of their bytes, each with the last value that the pairs
gave it and no others. The order in which pairs of different keys came shows neither in the filters
nor in what is made of them. -/
theorem ofList_canonical :
    (∀ pairs : List (String × FilterValue),
      ((ofList pairs).pairs.map fun pair => Text.bytes pair.1).Pairwise (· < ·) ∧
      (∀ key value, (key, value) ∈ (ofList pairs).pairs ↔ SetsLast pairs key value) ∧
      ∀ key value, (ofList pairs).get? key = some value ↔ SetsLast pairs key value) ∧
    (∀ pairs pairs' : List (String × FilterValue),
      ofList pairs = ofList pairs' ↔
        ∀ key value, SetsLast pairs key value ↔ SetsLast pairs' key value) ∧
    ∀ pairs pairs' : List (String × FilterValue), pairs.Perm pairs' → (pairs.map Prod.fst).Nodup →
      ofList pairs = ofList pairs' ∧
      (ofList pairs).toJson.render = (ofList pairs').toJson.render ∧
      (∀ model statistic,
        fingerprint model statistic (ofList pairs) = fingerprint model statistic (ofList pairs')) ∧
      ∀ (σ : Type) (backend : Backend σ) (registry : Registry) (spec : AggregateSpec)
        (now : Timestamp) (state : σ),
        registry.buildQuery backend spec (ofList pairs) now state =
          registry.buildQuery backend spec (ofList pairs') now state := by
  refine ⟨?_, fun _ _ => ofList_eq_iff, ?_⟩
  · intro pairs
    refine ⟨(ofList pairs).bytes_ascending, ?_, fun _ _ => get?_ofList_eq_some_iff⟩
    intro key value
    rw [mem_pairs_iff, get?_ofList_eq_some_iff]
  · intro pairs pairs' reordered single
    have same := ofList_eq_of_perm reordered single
    rw [same]
    exact ⟨rfl, rfl, fun _ _ => rfl, fun _ _ _ _ _ _ => rfl⟩

/-- A ligature comes before a face by its bytes, though not by its units of sixteen bits. -/
theorem ofList_face_and_ligature :
    let pairs : List (String × FilterValue) := [("😀", .int 1), ("ﬀ", .null), ("a", .bool true)]
    let pairs' : List (String × FilterValue) := [("ﬀ", .null), ("a", .bool true), ("😀", .int 1)]
    (pairs.Perm pairs' ∧ (pairs.map Prod.fst).Nodup) ∧
      ofList pairs = ofList pairs' ∧
      (ofList pairs).pairs = [("a", .bool true), ("ﬀ", .null), ("😀", .int 1)] := by
  intro pairs pairs'
  have reordered : pairs.Perm pairs' :=
    @List.perm_append_comm (String × FilterValue) [("😀", .int 1)] [("ﬀ", .null), ("a", .bool true)]
  have single : (pairs.map Prod.fst).Nodup := by decide
  exact ⟨⟨reordered, single⟩, (ofList_canonical.2.2 pairs pairs' reordered single).1, by rfl⟩

end Filters

end Statbook
