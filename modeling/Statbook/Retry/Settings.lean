import Statbook.Decimal.Whole
import Statbook.Retry.Policy

/-!
# Retry settings

Where a retry policy comes from: the standard, over it what a configuration sets, and over
that what the environment sets. A variable that cannot be read changes nothing.
-/

namespace Statbook

/-- The environment: the value of each variable that is set. -/
abbrev Variables := List (String × String)

/-- What a configuration says about retrying; what it leaves out stays as it is. -/
structure RetrySettings where
  maxAttempts : Option UInt32
  baseMillis : Option UInt64
  maxMillis : Option UInt64
  retryable : Option (List FailureKind)
  deriving DecidableEq

namespace RetrySettings

/-- Settings that leave everything out. -/
def none : RetrySettings := ⟨.none, .none, .none, .none⟩

/-- The variable that sets the number of attempts. -/
def attemptsVariable : String := "MSTAT_RETRY_MAX"

/-- The variable that sets the first wait in milliseconds. -/
def baseVariable : String := "MSTAT_RETRY_BASE_MS"

/-- The variable that sets the longest wait in milliseconds. -/
def maxVariable : String := "MSTAT_RETRY_MAX_MS"

/-- The number below `bound` that a variable writes. -/
def number? (environment : Variables) (name : String) (bound : Nat) : Option Nat :=
  (environment.lookup name).bind fun text => Decimal.readBelow? bound text.toList

/-- What the environment says about retrying. -/
def ofVariables (environment : Variables) : RetrySettings where
  maxAttempts := (number? environment attemptsVariable UInt32.size).map UInt32.ofNat
  baseMillis := (number? environment baseVariable UInt64.size).map UInt64.ofNat
  maxMillis := (number? environment maxVariable UInt64.size).map UInt64.ofNat
  retryable := .none

/-- The policy with the settings put in: one attempt at least, and one millisecond at least as
the longest wait. -/
def applyTo (settings : RetrySettings) (policy : RetryPolicy) : RetryPolicy where
  maxAttempts := (settings.maxAttempts.map fun n => max n 1).getD policy.maxAttempts
  baseInterval := (settings.baseMillis.map Duration.ofMillis).getD policy.baseInterval
  maxInterval :=
    (settings.maxMillis.map fun ms => Duration.ofMillis (max ms 1)).getD policy.maxInterval
  retryable := settings.retryable.getD policy.retryable

/-- The policy of a configuration in an environment. -/
def policy (settings : RetrySettings) (environment : Variables) : RetryPolicy :=
  (ofVariables environment).applyTo (settings.applyTo .standard)

end RetrySettings

end Statbook
