import Statbook.Filter.Value

/-!
# Filters

The filters of one question: at most one value for each key, in the order of the keys. Keys
are ordered by their code points, which is also the order of their UTF-8 bytes.
-/

namespace Statbook

/-- Filter values by key; the keys strictly ascend. -/
structure Filters where
  pairs : List (String × FilterValue)
  ascending : pairs.Pairwise fun p q => p.1 < q.1

namespace Filters

/-- The pairs with the value of `key` set, in the order of the keys. -/
def insertPair (key : String) (value : FilterValue) :
    List (String × FilterValue) → List (String × FilterValue)
  | [] => [(key, value)]
  | pair :: pairs =>
    if key < pair.1 then (key, value) :: pair :: pairs
    else if key = pair.1 then (key, value) :: pairs
    else pair :: insertPair key value pairs

/-- The keys after an insertion are those before it and the new one. -/
theorem mem_insertPair {key : String} {value : FilterValue} {pair : String × FilterValue}
    {pairs : List (String × FilterValue)} (h : pair ∈ insertPair key value pairs) :
    pair = (key, value) ∨ pair ∈ pairs := by
  induction pairs with
  | nil => simpa [insertPair] using h
  | cons head tail ih =>
    unfold insertPair at h
    split at h
    · simpa using h
    · split at h
      · rcases List.mem_cons.1 h with h | h
        · exact Or.inl h
        · exact Or.inr (List.mem_cons_of_mem _ h)
      · rcases List.mem_cons.1 h with h | h
        · exact Or.inr (h ▸ List.mem_cons_self)
        · exact (ih h).imp id (List.mem_cons_of_mem _)

/-- An insertion keeps the keys ascending. -/
theorem ascending_insertPair (key : String) (value : FilterValue)
    {pairs : List (String × FilterValue)} (h : pairs.Pairwise fun p q => p.1 < q.1) :
    (insertPair key value pairs).Pairwise fun p q => p.1 < q.1 := by
  induction pairs with
  | nil => simp [insertPair]
  | cons head tail ih =>
    obtain ⟨hhead, htail⟩ := List.pairwise_cons.1 h
    unfold insertPair
    split
    · rename_i hlt
      refine List.pairwise_cons.2 ⟨fun q hq => ?_, h⟩
      rcases List.mem_cons.1 hq with hq | hq
      · exact hq ▸ hlt
      · exact String.lt_trans hlt (hhead q hq)
    · split
      · rename_i heq
        exact List.pairwise_cons.2 ⟨fun q hq => heq ▸ hhead q hq, htail⟩
      · rename_i hlt hne
        refine List.pairwise_cons.2 ⟨fun q hq => ?_, ih htail⟩
        rcases mem_insertPair hq with hq | hq
        · subst hq
          exact Decidable.byContradiction fun h =>
            hne (String.le_antisymm (String.not_lt.1 h) (String.not_lt.1 hlt))
        · exact hhead q hq

/-- No filters. -/
def empty : Filters := ⟨[], List.Pairwise.nil⟩

instance : Inhabited Filters := ⟨empty⟩

/-- The filters with the value of `key` set. -/
def insert (filters : Filters) (key : String) (value : FilterValue) : Filters :=
  ⟨insertPair key value filters.pairs, ascending_insertPair key value filters.ascending⟩

/-- The filters that a list of pairs sets one after another. -/
def ofList (pairs : List (String × FilterValue)) : Filters :=
  pairs.foldl (fun filters pair => filters.insert pair.1 pair.2) empty

/-- The value of a key. -/
def get? (filters : Filters) (key : String) : Option FilterValue :=
  filters.pairs.lookup key

/-- The text of the value of a key, if it is textual. -/
def text? (filters : Filters) (key : String) : Option String :=
  (filters.get? key).bind FilterValue.text?

/-- The number of keys. -/
def size (filters : Filters) : Nat :=
  filters.pairs.length

/-- Whether there are no keys. -/
def isEmpty (filters : Filters) : Bool :=
  filters.pairs.isEmpty

/-- The pairs that constrain something. -/
def effective (filters : Filters) : List (String × FilterValue) :=
  filters.pairs.filter fun pair => !pair.2.isNull

/-- Pairs as a JSON object. -/
def pairsToJson (pairs : List (String × FilterValue)) : Json :=
  .object (pairs.map fun pair => (pair.1, pair.2.toJson))

/-- The filters as a JSON object. -/
def toJson (filters : Filters) : Json :=
  pairsToJson filters.pairs

end Filters

end Statbook
