import Mathlib.Order.Bounds.Basic
import Statbook.Proofs.Retry.Policy

/-!
# How many attempts are made

Were an evaluation attempted without end, every attempt would have its outcome, in the state that the
ones before it leave. A policy decides which of them are made: all up to the first one whose outcome is
not worth another attempt, and no more than the policy allows. The outcome of that one is the result.
-/

namespace Statbook.RetryPolicy

variable {σ α : Type}

/-- The state that so many attempts leave. -/
def reached (run : Nat → StateM σ (Except StatError α)) (state : σ) : Nat → σ
  | 0 => state
  | made + 1 => (run (made + 1) (reached run state made)).2

/-- The outcome of an attempt, the first one being number one. -/
def outcome (run : Nat → StateM σ (Except StatError α)) (state : σ) (attempt : Nat) :
    Except StatError α :=
  (run attempt (reached run state (attempt - 1))).1

theorem run_reached (run : Nat → StateM σ (Except StatError α)) (state : σ) (made : Nat) :
    run (made + 1) (reached run state made) =
      (outcome run state (made + 1), reached run state (made + 1)) :=
  rfl

/-- The outcome is a failure of the database of a kind that is worth another attempt. -/
def Transient (policy : RetryPolicy) (outcome : Except StatError α) : Prop :=
  ∃ failure, outcome = .error (.backend failure) ∧ failure.kind ∈ policy.retryable

/-- The error is a failure of the database of a kind that is worth another attempt. -/
def Retries (policy : RetryPolicy) (error : StatError) : Prop :=
  ∃ failure, error = .backend failure ∧ failure.kind ∈ policy.retryable

theorem transient_error_iff (policy : RetryPolicy) (error : StatError) :
    policy.Transient (α := α) (.error error) ↔ policy.Retries error := by
  simp only [Transient, Retries, Except.error.injEq]

/-- The number of attempts that are made at most. -/
def limit (policy : RetryPolicy) : Nat :=
  max 1 policy.maxAttempts.toNat

/-- No attempt follows this one: its outcome is not worth one, or as many were made as may be. -/
def Ends (policy : RetryPolicy) (outcomes : Nat → Except StatError α) (attempt : Nat) : Prop :=
  ¬policy.Transient (outcomes attempt) ∨ attempt = policy.limit

theorem isRetryable_iff (policy : RetryPolicy) (error : StatError) :
    policy.isRetryable error = true ↔ policy.Transient (α := α) (.error error) := by
  cases error <;> simp [isRetryable, StatError.failureKind?, Transient]

/-- An outcome that is not worth another attempt is a value, or an error of another sort. -/
theorem not_transient_iff (policy : RetryPolicy) (outcome : Except StatError α) :
    ¬policy.Transient outcome ↔ (∃ value, outcome = .ok value) ∨ ∃ error, outcome = .error error ∧
      ∀ failure, error = .backend failure → failure.kind ∉ policy.retryable := by
  constructor
  · intro final
    cases outcome with
    | ok value => exact .inl ⟨value, rfl⟩
    | error error =>
      refine .inr ⟨error, rfl, ?_⟩
      rintro failure rfl kind
      exact final ⟨failure, rfl, kind⟩
  · rintro (⟨value, rfl⟩ | ⟨error, rfl, final⟩) ⟨failure, failed, kind⟩
    · cases failed
    · cases failed
      exact final failure rfl kind

theorem limit_lt (policy : RetryPolicy) : policy.limit < UInt32.size :=
  max_lt (by decide) policy.maxAttempts.toNat_lt

section Step

variable {policy : RetryPolicy} {run : Nat → StateM σ (Except StatError α)} {state : σ} {made : Nat}

/-- An attempt whose outcome is worth another one is followed by the next. -/
theorem attemptFrom_of_transient (worth : policy.Transient (outcome run state (made + 1)))
    (further : Nat) :
    policy.attemptFrom run (made + 1) (further + 1) (reached run state made) =
      policy.attemptFrom run (made + 1 + 1) further (reached run state (made + 1)) := by
  obtain ⟨failure, failed, kind⟩ := worth
  have retried : policy.isRetryable (.backend failure) = true :=
    (isRetryable_iff (α := α) policy (.backend failure)).mpr ⟨failure, rfl, kind⟩
  rw [attemptFrom_succ, run_reached run, failed]
  simp only
  rw [if_pos retried]

/-- An attempt whose outcome is not worth another one is the last. -/
theorem attemptFrom_of_not_transient (final : ¬policy.Transient (outcome run state (made + 1)))
    (further : Nat) :
    policy.attemptFrom run (made + 1) further (reached run state made) =
      (outcome run state (made + 1), reached run state (made + 1)) := by
  cases further with
  | zero => exact run_reached run state made
  | succ further =>
    rw [attemptFrom_succ, run_reached run]
    cases result : outcome run state (made + 1) with
    | ok value => rfl
    | error error =>
      rw [result, ← isRetryable_iff] at final
      simp only
      rw [if_neg final]

end Step

/-- Attempts end with the first one whose outcome is not worth another, or else with the last one that
may be made. -/
theorem exists_last_attempt (policy : RetryPolicy) (run : Nat → StateM σ (Except StatError α))
    (state : σ) (made further : Nat) :
    ∃ last, made < last ∧ last ≤ made + 1 + further ∧
      (∀ attempt, made < attempt → attempt < last →
        policy.Transient (outcome run state attempt)) ∧
      (¬policy.Transient (outcome run state last) ∨ last = made + 1 + further) ∧
      policy.attemptFrom run (made + 1) further (reached run state made) =
        (outcome run state last, reached run state last) := by
  induction further generalizing made with
  | zero =>
    refine ⟨made + 1, Nat.lt_succ_self made, Nat.le_refl _, ?_, .inr rfl, run_reached run state made⟩
    intro attempt after before
    omega
  | succ further ih =>
    by_cases worth : policy.Transient (outcome run state (made + 1))
    · obtain ⟨last, after, few, earlier, ends, same⟩ := ih (made + 1)
      refine ⟨last, by omega, by omega, ?_, ?_, ?_⟩
      · intro attempt later before
        rcases Nat.eq_or_lt_of_le later with first | later
        · exact first ▸ worth
        · exact earlier attempt later before
      · rcases ends with final | last
        · exact .inl final
        · exact .inr (by omega)
      · rw [attemptFrom_of_transient worth, same]
    · refine ⟨made + 1, Nat.lt_succ_self made, by omega, ?_, .inl worth,
        attemptFrom_of_not_transient worth (further + 1)⟩
      intro attempt after before
      omega

/-- The result is the outcome of the least attempt that ends them, and so is the state. -/
theorem exists_run_eq (policy : RetryPolicy) (run : Nat → StateM σ (Except StatError α)) (state : σ) :
    ∃ last, IsLeast {attempt | 0 < attempt ∧ policy.Ends (outcome run state) attempt} last ∧
      last ≤ policy.limit ∧
      policy.run run state = (outcome run state last, reached run state last) := by
  obtain ⟨last, some, few, earlier, ends, same⟩ :=
    exists_last_attempt policy run state 0 (policy.maxAttempts.toNat - 1)
  have most : 0 + 1 + (policy.maxAttempts.toNat - 1) = policy.limit := by
    unfold limit
    omega
  rw [most] at few ends
  refine ⟨last, ⟨⟨some, ends⟩, ?_⟩, few, same⟩
  rintro attempt ⟨counted, final | limit⟩
  · by_contra before
    exact final (earlier attempt counted (Nat.lt_of_not_le before))
  · exact limit ▸ few

/-- All attempts before the least one that ends them were worth another. -/
theorem transient_of_lt_least {policy : RetryPolicy} {outcomes : Nat → Except StatError α} {last : Nat}
    (least : IsLeast {attempt | 0 < attempt ∧ policy.Ends outcomes attempt} last) {attempt : Nat}
    (counted : 0 < attempt) (before : attempt < last) : policy.Transient (outcomes attempt) := by
  by_contra final
  exact Nat.not_le_of_lt before (least.2 ⟨counted, .inl final⟩)

/-- The attempts with their numbers kept beside the state. -/
def numbered (run : Nat → StateM σ (Except StatError α)) (attempt : Nat) :
    StateM (σ × List Nat) (Except StatError α) := fun state =>
  let (result, inner) := run attempt state.1
  (result, inner, state.2 ++ [attempt])

/-- The numbers of the attempts that are made. -/
def attemptsMade (policy : RetryPolicy) (run : Nat → StateM σ (Except StatError α)) (state : σ) :
    List Nat :=
  (policy.run (numbered run) (state, [])).2.2

theorem reached_numbered (run : Nat → StateM σ (Except StatError α)) (state : σ) (made : Nat) :
    reached (numbered run) (state, []) made = (reached run state made, List.range' 1 made) := by
  induction made with
  | zero => rfl
  | succ made ih =>
    rw [reached, ih, List.range'_concat, Nat.one_mul, Nat.add_comm 1 made]
    rfl

theorem outcome_numbered (run : Nat → StateM σ (Except StatError α)) (state : σ) :
    outcome (numbered run) (state, []) = outcome run state := by
  funext attempt
  rw [outcome, reached_numbered]
  rfl

/-- The attempts made are those up to the least one that ends them. -/
theorem attemptsMade_eq {policy : RetryPolicy} {run : Nat → StateM σ (Except StatError α)} {state : σ}
    {last : Nat}
    (least : IsLeast {attempt | 0 < attempt ∧ policy.Ends (outcome run state) attempt} last) :
    policy.attemptsMade run state = List.range' 1 last := by
  obtain ⟨other, least', -, same⟩ := exists_run_eq policy (numbered run) (state, [])
  rw [outcome_numbered] at least'
  rw [attemptsMade, same, reached_numbered, least'.unique least]

/-- Where the result is an error, every attempt failed: the last one with that error, and all before
it with one that is worth another attempt. If the last one is, too, no more attempts may be made. -/
theorem exists_failures {policy : RetryPolicy} {run : Nat → StateM σ (Except StatError α)}
    {state after : σ} {error : StatError} (failed : policy.run run state = (.error error, after)) :
    ∃ earlier, (policy.attemptsMade run state).length = earlier + 1 ∧
      reached run state (earlier + 1) = after ∧
      (∀ made < earlier, ∃ error', outcome run state (made + 1) = .error error' ∧
        policy.Retries error') ∧
      outcome run state (earlier + 1) = .error error ∧
      (policy.Retries error → earlier + 1 = policy.limit) := by
  obtain ⟨last, least, -, same⟩ := exists_run_eq policy run state
  obtain ⟨result, left⟩ := Prod.mk.inj (same.symm.trans failed)
  obtain ⟨earlier, rfl⟩ := Nat.exists_eq_succ_of_ne_zero (Nat.pos_iff_ne_zero.mp least.1.1)
  refine ⟨earlier, by rw [attemptsMade_eq least, List.length_range'], left, ?_, result, ?_⟩
  · intro made before
    obtain ⟨failure, failed', kind⟩ := transient_of_lt_least least (Nat.succ_pos made)
      (Nat.succ_lt_succ before)
    exact ⟨.backend failure, failed', failure, rfl, kind⟩
  · intro worth
    rcases least.1.2 with final | limit
    · rw [result, transient_error_iff] at final
      exact absurd worth final
    · exact limit

/-- An evaluation is attempted until the first outcome that is no failure worth another attempt, and at
most as often as the policy allows, but once at least. The attempts are numbered from one on, in 32
bits, the last one gives the result, and all before it failed in a way worth another attempt. -/
theorem run_ends_with_first (policy : RetryPolicy) (run : Nat → StateM σ (Except StatError α))
    (state : σ) :
    ∃ last, IsLeast {attempt | 0 < attempt ∧ ((∃ value, outcome run state attempt = .ok value) ∨
        (∃ error, outcome run state attempt = .error error ∧
          ∀ failure, error = .backend failure → failure.kind ∉ policy.retryable) ∨
        attempt = max 1 policy.maxAttempts.toNat)} last ∧
      policy.run run state = (outcome run state last, reached run state last) ∧
      policy.attemptsMade run state = List.range' 1 last ∧ last < UInt32.size ∧
      ∀ attempt, 0 < attempt → attempt < last → ∃ failure,
        outcome run state attempt = .error (.backend failure) ∧
          failure.kind ∈ policy.retryable := by
  obtain ⟨last, least, few, same⟩ := exists_run_eq policy run state
  have ending : ∀ attempt, policy.Ends (outcome run state) attempt ↔
      (∃ value, outcome run state attempt = .ok value) ∨
        (∃ error, outcome run state attempt = .error error ∧
          ∀ failure, error = .backend failure → failure.kind ∉ policy.retryable) ∨
        attempt = max 1 policy.maxAttempts.toNat := by
    intro attempt
    rw [Ends, not_transient_iff, or_assoc, limit]
  refine ⟨last, ?_, same, attemptsMade_eq least, Nat.lt_of_le_of_lt few policy.limit_lt, ?_⟩
  · simpa only [ending] using least
  · intro attempt counted before
    exact transient_of_lt_least least counted before

end Statbook.RetryPolicy
