import Statbook.Cache.Basic

/-!
# Traces

Actions that are done one after another meet the states that the ones before them left. What a
run has done is counted over its actions together with these states.
-/

namespace Statbook

variable {σ α : Type} {perform : σ → α → σ}

/-- The actions of a run, each with the state that it meets. -/
def trace (perform : σ → α → σ) : σ → List α → List (σ × α)
  | _, [] => []
  | state, action :: actions => (state, action) :: trace perform (perform state action) actions

theorem trace_concat (state : σ) (actions : List α) (action : α) :
    trace perform state (actions ++ [action]) =
      trace perform state actions ++ [(actions.foldl perform state, action)] := by
  induction actions generalizing state with
  | nil => rfl
  | cons first actions ih => simp [trace, ih]

end Statbook
