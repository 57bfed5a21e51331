import Statbook.Error
import Statbook.Calendar.Duration

/-!
# Retrying

A policy says how often an evaluation is attempted and how long to wait in between. Only
failures of the database of a kind that the policy names are worth another attempt.
-/

namespace Statbook

/-- How an evaluation is attempted again. -/
structure RetryPolicy where
  /-- The number of attempts, the first one included. -/
  maxAttempts : UInt32
  /-- The wait before the second attempt; it doubles with every further one. -/
  baseInterval : Duration
  /-- The longest wait. -/
  maxInterval : Duration
  /-- The kinds of failure that are worth another attempt. -/
  retryable : List FailureKind
  deriving DecidableEq

namespace RetryPolicy

/-- Three attempts, a tenth of a second before the second one, at most two seconds. -/
def standard : RetryPolicy where
  maxAttempts := 3
  baseInterval := .ofMillis 100
  maxInterval := .ofSeconds 2
  retryable := [.serialization]

/-- One attempt only. -/
def once : RetryPolicy :=
  { standard with maxAttempts := 1 }

/-- Whether an error is worth another attempt. -/
def isRetryable (policy : RetryPolicy) (error : StatError) : Bool :=
  match error.failureKind? with
  | some kind => policy.retryable.contains kind
  | none => false

/-- By how much the wait after an attempt is longer than the first one. It stops growing at the
greatest number of 32 bits. -/
def backoffFactor (attempt : Nat) : Nat :=
  min (Nat.pow 2 (min (attempt - 1) 32)) (UInt32.size - 1)

/-- The wait after a failed attempt, counted from one. -/
def backoff (policy : RetryPolicy) (attempt : Nat) : Duration :=
  ((policy.baseInterval.times? (backoffFactor attempt)).getD policy.maxInterval).shorter
    policy.maxInterval

/-- Attempts number `attempt`, `attempt + 1`, … until one succeeds, fails for good, or is the
last one; `further` of them may follow the first. -/
def attemptFrom {σ α : Type} (policy : RetryPolicy)
    (run : Nat → StateM σ (Except StatError α)) :
    (attempt further : Nat) → StateM σ (Except StatError α)
  | attempt, 0 => run attempt
  | attempt, further + 1 => do
    match ← run attempt with
    | .ok value => pure (.ok value)
    | .error error =>
      if policy.isRetryable error then policy.attemptFrom run (attempt + 1) further
      else pure (.error error)

/-- Attempts an evaluation as often as the policy allows, and once at least. -/
def run {σ α : Type} (policy : RetryPolicy) (run : Nat → StateM σ (Except StatError α)) :
    StateM σ (Except StatError α) :=
  policy.attemptFrom run 1 (policy.maxAttempts.toNat - 1)

end RetryPolicy

end Statbook
