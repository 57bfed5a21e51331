import Mathlib.Algebra.Group.Nat.Defs
import Mathlib.Order.MinMax
import Statbook.Retry.Policy

/-!
# How long is waited

The wait after an attempt is computed in two steps that may both leave their range: the factor stops
at the greatest number of 32 bits, and a product beyond every duration is replaced by the longest
wait. Neither shows in the result but for one bound: counted in nanoseconds, the wait is the exact
product of the first wait and the factor, cut at the longest wait.
-/

namespace Statbook

namespace Duration

theorem nanos_shorter (d e : Duration) : (d.shorter e).nanos = min d.nanos e.nanos := by
  unfold shorter
  by_cases le : d.nanos ≤ e.nanos
  · rw [if_pos le, min_eq_left le]
  · rw [if_neg le, min_eq_right (Nat.le_of_not_le le)]

/-- A product out of range is longer than every duration, so the cap takes its place unseen. -/
theorem nanos_capped (d cap : Duration) (n : Nat) :
    (((d.times? n).getD cap).shorter cap).nanos = min cap.nanos (d.nanos * n) := by
  rw [nanos_shorter, min_comm]
  by_cases inRange : d.nanos * n < UInt64.size * nanosPerSecond
  · rw [times?, ofNanos?, dif_pos inRange]
    rfl
  · have longer : cap.nanos ≤ d.nanos * n :=
      Nat.le_trans (Nat.le_of_lt cap.nanos_lt) (Nat.le_of_not_lt inRange)
    rw [times?, ofNanos?, dif_neg inRange, min_eq_left longer]
    exact min_self cap.nanos

end Duration

namespace RetryPolicy

/-- The exponent is cut where the power is already above the bound, so the cut changes nothing. -/
theorem backoffFactor_eq (attempt : Nat) :
    backoffFactor attempt = min (2 ^ (attempt - 1)) (2 ^ 32 - 1) := by
  unfold backoffFactor
  by_cases few : attempt - 1 ≤ 32
  · rw [min_eq_left few]
    rfl
  · have power : 2 ^ 32 ≤ 2 ^ (attempt - 1) := Nat.pow_le_pow_right (by decide) (by omega)
    have above : 2 ^ 32 - 1 ≤ 2 ^ (attempt - 1) := Nat.le_trans (Nat.sub_le _ 1) power
    rw [min_eq_right (Nat.le_of_not_le few), min_eq_right above]
    rfl

theorem backoffFactor_mono : Monotone backoffFactor := by
  intro m n order
  rw [backoffFactor_eq, backoffFactor_eq]
  apply min_le_min_right
  apply Nat.pow_le_pow_right (by decide)
  exact Nat.sub_le_sub_right order 1

/-- Up to the attempt whose power no longer fits into 32 bits, the wait is doubled each time. -/
theorem backoffFactor_of_le {attempt : Nat} (few : attempt ≤ 32) :
    backoffFactor attempt = 2 ^ (attempt - 1) := by
  have power : 2 ^ (attempt - 1) ≤ 2 ^ 31 := Nat.pow_le_pow_right (by decide) (by omega)
  rw [backoffFactor_eq]
  apply min_eq_left
  omega

theorem nanos_backoff (policy : RetryPolicy) (attempt : Nat) : (policy.backoff attempt).nanos =
    min policy.maxInterval.nanos (policy.baseInterval.nanos * backoffFactor attempt) :=
  Duration.nanos_capped policy.baseInterval policy.maxInterval (backoffFactor attempt)

theorem backoff_mono (policy : RetryPolicy) :
    Monotone fun attempt => (policy.backoff attempt).nanos := by
  intro m n order
  simp only [nanos_backoff]
  apply min_le_min_left
  apply Nat.mul_le_mul_left
  exact backoffFactor_mono order

/-- Where the bounded factor already brings the wait to its longest, the unbounded one does no
more. -/
theorem nanos_backoff_of_reaches {policy : RetryPolicy}
    (reaches : policy.maxInterval.nanos ≤ policy.baseInterval.nanos * (2 ^ 32 - 1))
    (attempt : Nat) : (policy.backoff attempt).nanos =
      min policy.maxInterval.nanos (policy.baseInterval.nanos * 2 ^ (attempt - 1)) := by
  rw [nanos_backoff, backoffFactor_eq]
  by_cases fits : 2 ^ (attempt - 1) ≤ 2 ^ 32 - 1
  · rw [min_eq_left fits]
  · have above : 2 ^ 32 - 1 ≤ 2 ^ (attempt - 1) := Nat.le_of_not_le fits
    have longer := Nat.le_trans reaches (Nat.mul_le_mul_left policy.baseInterval.nanos above)
    rw [min_eq_right above, min_eq_left reaches, min_eq_left longer]

/-- The wait after an attempt is the first wait times a power of two that stops at the greatest
number of 32 bits, and at most the longest wait. So it never gets shorter, and it is doubled each
time, up to the longest wait, as long as the power fits or where the bounded one suffices. -/
theorem backoff_exact (policy : RetryPolicy) :
    (∀ attempt ≥ 1, (policy.backoff attempt).nanos = min policy.maxInterval.nanos
      (policy.baseInterval.nanos * min (2 ^ (attempt - 1)) (2 ^ 32 - 1))) ∧
    (Monotone fun attempt => (policy.backoff attempt).nanos) ∧
    (∀ attempt, (policy.backoff attempt).nanos ≤ policy.maxInterval.nanos) ∧
    policy.backoff 0 = policy.backoff 1 ∧
    (∀ attempt ≥ 1, attempt ≤ 32 ∨
        policy.maxInterval.nanos ≤ policy.baseInterval.nanos * (2 ^ 32 - 1) →
      (policy.backoff attempt).nanos =
        min policy.maxInterval.nanos (policy.baseInterval.nanos * 2 ^ (attempt - 1))) := by
  refine ⟨?_, backoff_mono policy, ?_, rfl, ?_⟩
  · intro attempt _
    rw [nanos_backoff, backoffFactor_eq]
  · intro attempt
    rw [nanos_backoff]
    exact min_le_left _ _
  · intro attempt _ enough
    rcases enough with few | reaches
    · rw [nanos_backoff, backoffFactor_of_le few]
    · exact nanos_backoff_of_reaches reaches attempt

/-- A wait that starts at one second and grows up to the bound of the factor in seconds. -/
def upToBound : RetryPolicy :=
  { standard with baseInterval := .ofSeconds 1, maxInterval := .ofSeconds 4294967295 }

/-- The forty-first power of two is out of reach, but so is every wait above the longest one. -/
theorem upToBound_backoff : (1 ≤ 42 ∧
      upToBound.maxInterval.nanos ≤ upToBound.baseInterval.nanos * (2 ^ 32 - 1)) ∧
    (upToBound.backoff 42).nanos = 4294967295 * nanosPerSecond ∧
    (upToBound.backoff 42).nanos = min upToBound.maxInterval.nanos
      (upToBound.baseInterval.nanos * min (2 ^ 41) (2 ^ 32 - 1)) ∧
    (upToBound.backoff 32).nanos = 2147483648 * nanosPerSecond := by
  obtain ⟨capped, -, -, -, doubled⟩ := backoff_exact upToBound
  have reaches : upToBound.maxInterval.nanos ≤ upToBound.baseInterval.nanos * (2 ^ 32 - 1) := by
    decide
  refine ⟨⟨by decide, reaches⟩, ?_, capped 42 (by decide), ?_⟩
  · rw [doubled 42 (by decide) (.inr reaches)]
    decide
  · rw [doubled 32 (by decide) (.inl (by decide))]
    decide

end RetryPolicy

end Statbook
