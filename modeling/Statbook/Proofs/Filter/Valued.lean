import Statbook.Filter.Filters

/-!
# Filters with a value

The value of a filter may be that there is none, and then the filter constrains nothing. The others
are the filters that count, in the order of their keys.
-/

namespace Statbook

namespace Filters

/-- The filters that have a value. -/
def valued (filters : Filters) : List (String × FilterValue) :=
  filters.pairs.filter fun
    | (_, .null) => false
    | _ => true

variable {filters : Filters} {pair : String × FilterValue}

theorem effective_eq_valued (filters : Filters) : filters.effective = filters.valued := by
  refine List.filter_congr fun pair _ => ?_
  obtain ⟨key, value⟩ := pair
  cases value <;> rfl

theorem mem_valued_iff :
    pair ∈ filters.valued ↔ pair ∈ filters.pairs ∧ pair.2.isNull = false := by
  rw [← effective_eq_valued, effective, List.mem_filter, Bool.not_eq_true']

theorem ascending_valued (filters : Filters) : filters.valued.Pairwise fun p q => p.1 < q.1 :=
  filters.ascending.filter _

end Filters

end Statbook
