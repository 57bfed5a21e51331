import Statbook.Filter.Rule
import Statbook.Proofs.Backend.Results

/-!
# Why a filter is refused

A filter is refused because of its value or because of its key, and the error names the key.
-/

namespace Statbook.FilterRule

variable {key : String} {value : FilterValue} {table : String} {now : Timestamp}
  {error : StatError}

theorem literals_eq_error (failed : literals key value = .error error) :
    ∃ reason, error = .invalidFilterValue key reason := by
  unfold literals at failed
  split at failed
  · split at failed
    · cases failed
    · exact ⟨_, (Except.error.inj failed).symm⟩
  · split at failed
    · cases failed
    · exact ⟨_, (Except.error.inj failed).symm⟩

theorem equate_eq_error {column : String} (failed : equate key column value = .error error) :
    ∃ reason, error = .invalidFilterValue key reason := by
  unfold equate at failed
  split at failed
  · cases failed
  · split at failed
    · cases failed
    · exact ⟨_, (Except.error.inj failed).symm⟩
  · split at failed
    · cases failed
    · exact ⟨_, (Except.error.inj failed).symm⟩

theorem dayOf_eq_error (failed : dayOf key value = .error error) :
    ∃ reason, error = .invalidFilterValue key reason := by
  unfold dayOf at failed
  split at failed
  · cases failed
  · cases failed
  · split at failed
    · cases failed
    · cases failed
    · exact ⟨_, (Except.error.inj failed).symm⟩
  · exact ⟨_, (Except.error.inj failed).symm⟩

theorem inWindow_eq_error {field : String} (failed : inWindow key field value now = .error error) :
    ∃ reason, error = .invalidFilterValue key reason := by
  unfold inWindow at failed
  split at failed
  · exact ⟨_, (Except.error.inj failed).symm⟩
  · split at failed
    · exact ⟨_, (Except.error.inj failed).symm⟩
    · cases failed

/-- A rule refuses values only. -/
theorem apply_eq_error {rule : FilterRule} {column : String}
    (failed : rule.apply key value table now column = .error error) :
    ∃ reason, error = .invalidFilterValue key reason := by
  induction rule generalizing column with
  | template pattern => exact literals_eq_error (map_eq_error_iff.mp failed)
  | equality => exact equate_eq_error failed
  | day => exact dayOf_eq_error (map_eq_error_iff.mp failed)
  | window field => exact inWindow_eq_error failed
  | onColumn column rule ih => exact ih failed

theorem applyDefault_eq_error (failed : applyDefault key value now = .error error) :
    error = .unknownFilterKey key ∨ ∃ reason, error = .invalidFilterValue key reason := by
  unfold applyDefault at failed
  split at failed
  · split at failed
    · exact Or.inr (inWindow_eq_error failed)
    · exact Or.inr ⟨_, (Except.error.inj failed).symm⟩
  · exact Or.inl (Except.error.inj failed).symm

/-- The error of a filter names its key. -/
theorem resolve_eq_error {rule : Option FilterRule}
    (failed : resolve key value rule table now = .error error) :
    error = .unknownFilterKey key ∨ ∃ reason, error = .invalidFilterValue key reason := by
  unfold resolve at failed
  split at failed
  · cases failed
  · cases rule with
    | some rule => exact Or.inr (apply_eq_error (map_eq_error_iff.mp failed))
    | none => exact applyDefault_eq_error (map_eq_error_iff.mp failed)

end Statbook.FilterRule
