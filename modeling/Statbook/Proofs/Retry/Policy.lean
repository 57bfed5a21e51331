import Statbook.Proofs.Backend.Fallible
import Statbook.Retry.Policy

/-!
# Repeated attempts

The result of repeated attempts is the result of one of them, so what every attempt keeps and
ensures is kept and ensured by all of them together.
-/

namespace Statbook.RetryPolicy

open Fallible

variable {σ α : Type} {P : σ → Prop} {Q : Except StatError α → Prop}

theorem attemptFrom_succ (policy : RetryPolicy) (run : Nat → StateM σ (Except StatError α))
    (attempt further : Nat) (state : σ) : policy.attemptFrom run attempt (further + 1) state =
      match run attempt state with
      | (.ok value, state) => (.ok value, state)
      | (.error error, state) =>
        if policy.isRetryable error then policy.attemptFrom run (attempt + 1) further state
        else (.error error, state) := by
  simp only [attemptFrom, bind, StateT.bind]
  rcases run attempt state with ⟨result, state'⟩
  cases result with
  | ok value => rfl
  | error error =>
    simp only
    split <;> rfl

theorem ensures_attemptFrom (policy : RetryPolicy) {run : Nat → Fallible σ α}
    (each : ∀ attempt, Ensures P (run attempt) Q) (attempt further : Nat) :
    Ensures P (policy.attemptFrom run attempt further) Q := by
  induction further generalizing attempt with
  | zero => exact each attempt
  | succ further ih =>
    intro state kept
    have here := each attempt state kept
    rw [attemptFrom_succ]
    rcases h : run attempt state with ⟨result, state'⟩
    rw [h] at here
    cases result with
    | ok value => exact here
    | error error =>
      simp only
      split
      · exact ih (attempt + 1) state' here.1
      · exact here

/-- What every attempt ensures is ensured by an evaluation that is retried. -/
theorem ensures_run (policy : RetryPolicy) {run : Nat → Fallible σ α}
    (each : ∀ attempt, Ensures P (run attempt) Q) : Ensures P (policy.run run) Q :=
  ensures_attemptFrom policy each 1 _

/-- The result of repeated attempts is that of one of them, and those before it keep what all
of them keep. -/
theorem exists_attempt (policy : RetryPolicy) {run : Nat → Fallible σ α}
    (each : ∀ attempt, Keeps P (run attempt)) {state : σ} (kept : P state) :
    ∃ attempt reached, P reached ∧ policy.run run state = run attempt reached := by
  unfold RetryPolicy.run
  generalize policy.maxAttempts.toNat - 1 = further
  generalize 1 = attempt
  induction further generalizing attempt state with
  | zero => exact ⟨attempt, state, kept, rfl⟩
  | succ further ih =>
    have here := each attempt state kept
    rw [attemptFrom_succ]
    rcases h : run attempt state with ⟨result, state'⟩
    rw [h] at here
    cases result with
    | ok value => exact ⟨attempt, state, kept, h.symm⟩
    | error error =>
      simp only
      split
      · exact ih here.1 (attempt + 1)
      · exact ⟨attempt, state, kept, h.symm⟩

theorem mirrors_run {τ : Type} {view : τ → σ} (policy : RetryPolicy) {full : Nat → Fallible τ α}
    {plain : Nat → Fallible σ α} (each : ∀ attempt, Mirrors view (full attempt) (plain attempt)) :
    Mirrors view (policy.run full) (policy.run plain) := by
  unfold RetryPolicy.run
  generalize policy.maxAttempts.toNat - 1 = further
  generalize 1 = attempt
  induction further generalizing attempt with
  | zero => exact each attempt
  | succ further ih =>
    intro state
    rw [attemptFrom_succ, attemptFrom_succ, each attempt state]
    rcases full attempt state with ⟨result, state'⟩
    cases result with
    | ok value => rfl
    | error error =>
      simp only
      split
      · exact ih (attempt + 1) state'
      · rfl

end Statbook.RetryPolicy
