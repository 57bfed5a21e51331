import Mathlib.Order.MinMax
import Statbook.Proofs.Decimal.Digits
import Statbook.Retry.Settings

/-!
# Where each part of a policy comes from

Each number of a policy is decided on its own: by its variable if that can be read, or else by the
configuration, or else it is the standard one. The first two are raised to the least number that
makes sense; no variable says which failures are worth another attempt.
-/

namespace Statbook

namespace Decimal

variable {bound n : Nat} {cs : List Char}

/-- A text writes a number in digits, with or without leading zeros and perhaps behind a plus
sign. -/
def Writes (cs : List Char) (n : Nat) : Prop :=
  ∃ ds, (cs = ds ∨ cs = '+' :: ds) ∧ ds ≠ [] ∧ (∀ c ∈ ds, isDigit c) ∧
    Nat.ofDigitChars 10 ds 0 = n

theorem readNat?_eq_some_iff : readNat? cs = some n ↔
    cs ≠ [] ∧ (∀ c ∈ cs, isDigit c) ∧ Nat.ofDigitChars 10 cs 0 = n := by
  rw [readNat?, foldDigits_eq_ofDigitChars, Option.ite_none_left_eq_some]
  simp [and_assoc]

/-- What is read is a number that the text writes, if it is small enough. -/
theorem readBelow?_eq_some_iff : readBelow? bound cs = some n ↔ Writes cs n ∧ n < bound := by
  unfold readBelow?
  rw [Option.filter_eq_some_iff, decide_eq_true_eq, readNat?_eq_some_iff]
  refine and_congr_left fun _ => ?_
  split
  · next rest =>
    constructor
    · exact fun read => ⟨rest, .inr rfl, read⟩
    · rintro ⟨ds, rfl | same, nonempty, digits, value⟩
      · exact absurd (digits '+' List.mem_cons_self) (by decide)
      · obtain ⟨-, rfl⟩ := List.cons.inj same
        exact ⟨nonempty, digits, value⟩
  · next unsigned =>
    constructor
    · exact fun read => ⟨cs, .inl rfl, read⟩
    · rintro ⟨ds, rfl | rfl, read⟩
      · exact read
      · exact absurd rfl (unsigned ds)

end Decimal

namespace RetrySettings

/-- A variable is set to a text that writes a number below the bound. -/
def Sets (environment : Variables) (name : String) (bound n : Nat) : Prop :=
  ∃ text, environment.lookup name = some text ∧ Decimal.Writes text.toList n ∧ n < bound

/-- What decides a number of a policy: the variable if it can be read, or else the configuration,
and if neither gives one the standard. A number of the first two is raised to the least one. -/
inductive Decided (environment : Variables) (name : String) (bound : Nat)
    (configured : Option Nat) (least standard : Nat) : Nat → Prop
  | byVariable {n : Nat} (sets : Sets environment name bound n) :
    Decided environment name bound configured least standard (max n least)
  | byConfiguration {n : Nat} (unset : ∀ m, ¬Sets environment name bound m)
    (given : configured = some n) :
    Decided environment name bound configured least standard (max n least)
  | byStandard (unset : ∀ m, ¬Sets environment name bound m) (absent : configured = .none) :
    Decided environment name bound configured least standard standard

variable {environment : Variables} {name : String} {bound n : Nat}

theorem number?_eq_some_iff :
    number? environment name bound = some n ↔ Sets environment name bound n := by
  simp only [number?, Option.bind_eq_some_iff, Decimal.readBelow?_eq_some_iff, Sets]

theorem number?_eq_none_iff :
    number? environment name bound = .none ↔ ∀ n, ¬Sets environment name bound n := by
  simp only [Option.eq_none_iff_forall_ne_some, ne_eq, number?_eq_some_iff]

theorem Decided.least_le {configured : Option Nat} {least standard : Nat} (few : least ≤ standard)
    (decided : Decided environment name bound configured least standard n) : least ≤ n := by
  cases decided with
  | byVariable _ => exact le_max_right _ _
  | byConfiguration _ _ => exact le_max_right _ _
  | byStandard _ _ => exact few

/-- A part of a policy that is put in by the variable over the configuration over the standard shows
the number that decides it. -/
theorem exists_decided {α β : Type} {least standard : Nat} {start : β} (ofNat : Nat → α)
    (toNat : α → Nat) (put : α → β) (Shows : β → Nat → Prop)
    (kept : ∀ n < bound, toNat (ofNat n) = n) (raised : ∀ x, Shows (put x) (max (toNat x) least))
    (started : Shows start standard) (environment : Variables) (name : String)
    (configured : Option α) :
    ∃ n, Decided environment name bound (configured.map toNat) least standard n ∧
      Shows ((((number? environment name bound).map ofNat).map put).getD
        ((configured.map put).getD start)) n := by
  cases read : number? environment name bound with
  | some n =>
    have sets := number?_eq_some_iff.mp read
    obtain ⟨-, -, -, below⟩ := id sets
    have shown := raised (ofNat n)
    rw [kept n below] at shown
    exact ⟨max n least, .byVariable sets, shown⟩
  | none =>
    have unset := number?_eq_none_iff.mp read
    cases configured with
    | some x => exact ⟨max (toNat x) least, .byConfiguration unset rfl, raised x⟩
    | none => exact ⟨standard, .byStandard unset rfl, started⟩

/-- A duration is so many milliseconds long. -/
def IsMillis (duration : Duration) (millis : Nat) : Prop :=
  duration.nanos = millis * nanosPerMilli

theorem decided_maxAttempts (settings : RetrySettings) (environment : Variables) :
    Decided environment attemptsVariable UInt32.size (settings.maxAttempts.map UInt32.toNat) 1 3
      (settings.policy environment).maxAttempts.toNat := by
  have kept (n : Nat) (below : n < UInt32.size) : (UInt32.ofNat n).toNat = n :=
    UInt32.toNat_ofNat_of_lt below
  have raised (n : UInt32) : (max n 1).toNat = max n.toNat 1 := UInt32.toNat_max n 1
  have standard : RetryPolicy.standard.maxAttempts.toNat = 3 := by decide
  obtain ⟨n, decided, shown⟩ := exists_decided UInt32.ofNat UInt32.toNat (fun n => max n 1)
    (fun attempts n => attempts.toNat = n) kept raised standard environment attemptsVariable
    settings.maxAttempts
  have same : (settings.policy environment).maxAttempts.toNat = n := shown
  rw [same]
  exact decided

theorem decided_baseInterval (settings : RetrySettings) (environment : Variables) :
    ∃ millis, Decided environment baseVariable UInt64.size
        (settings.baseMillis.map UInt64.toNat) 0 100 millis ∧
      IsMillis (settings.policy environment).baseInterval millis := by
  have standard : IsMillis RetryPolicy.standard.baseInterval 100 := by unfold IsMillis; decide
  exact exists_decided UInt64.ofNat UInt64.toNat Duration.ofMillis IsMillis
    (fun _ => UInt64.toNat_ofNat_of_lt)
    (fun ms => congrArg (· * nanosPerMilli) (Nat.max_zero ms.toNat).symm) standard environment
    baseVariable settings.baseMillis

theorem decided_maxInterval (settings : RetrySettings) (environment : Variables) :
    ∃ millis, Decided environment maxVariable UInt64.size
        (settings.maxMillis.map UInt64.toNat) 1 2000 millis ∧
      IsMillis (settings.policy environment).maxInterval millis := by
  have standard : IsMillis RetryPolicy.standard.maxInterval 2000 := by unfold IsMillis; decide
  exact exists_decided UInt64.ofNat UInt64.toNat (fun ms => Duration.ofMillis (max ms 1)) IsMillis
    (fun _ => UInt64.toNat_ofNat_of_lt)
    (fun ms => congrArg (· * nanosPerMilli) (UInt64.toNat_max ms 1)) standard environment maxVariable
    settings.maxMillis

/-- A part of a policy depends on one setting and on the number that one variable sets, on nothing
else that a configuration or an environment says. -/
def DependsOn {α β : Type} (part : RetryPolicy → β) (setting : RetrySettings → α) (name : String)
    (bound : Nat) : Prop :=
  ∀ (settings settings' : RetrySettings) (environment environment' : Variables),
    setting settings' = setting settings →
    (∀ n, Sets environment' name bound n ↔ Sets environment name bound n) →
    part (settings'.policy environment') = part (settings.policy environment)

theorem number?_congr {environment' : Variables}
    (same : ∀ n, Sets environment' name bound n ↔ Sets environment name bound n) :
    number? environment' name bound = number? environment name bound := by
  ext n
  rw [number?_eq_some_iff, number?_eq_some_iff, same]

theorem maxAttempts_dependsOn :
    DependsOn RetryPolicy.maxAttempts maxAttempts attemptsVariable UInt32.size := by
  intro settings settings' environment environment' own same
  simp only [policy, applyTo, ofVariables, own, number?_congr same]

theorem baseInterval_dependsOn :
    DependsOn RetryPolicy.baseInterval baseMillis baseVariable UInt64.size := by
  intro settings settings' environment environment' own same
  simp only [policy, applyTo, ofVariables, own, number?_congr same]

theorem maxInterval_dependsOn :
    DependsOn RetryPolicy.maxInterval maxMillis maxVariable UInt64.size := by
  intro settings settings' environment environment' own same
  simp only [policy, applyTo, ofVariables, own, number?_congr same]

/-- Each number of a policy is decided by its own variable, its own setting and its own standard, and
the failures that are worth another attempt by no variable at all. What else is set changes nothing,
and a variable that cannot be read does as little as one that is not there. So every policy makes at
least one attempt. -/
theorem policy_decided (settings : RetrySettings) (environment : Variables) :
    let policy := settings.policy environment
    Decided environment attemptsVariable UInt32.size (settings.maxAttempts.map UInt32.toNat) 1 3
      policy.maxAttempts.toNat ∧
    (∃ millis, Decided environment baseVariable UInt64.size
        (settings.baseMillis.map UInt64.toNat) 0 100 millis ∧
      IsMillis policy.baseInterval millis) ∧
    (∃ millis, Decided environment maxVariable UInt64.size
        (settings.maxMillis.map UInt64.toNat) 1 2000 millis ∧
      IsMillis policy.maxInterval millis) ∧
    policy.retryable = settings.retryable.getD [.serialization] ∧
    DependsOn RetryPolicy.maxAttempts maxAttempts attemptsVariable UInt32.size ∧
    DependsOn RetryPolicy.baseInterval baseMillis baseVariable UInt64.size ∧
    DependsOn RetryPolicy.maxInterval maxMillis maxVariable UInt64.size ∧
    1 ≤ policy.maxAttempts.toNat := by
  intro policy
  have attempts := decided_maxAttempts settings environment
  exact ⟨attempts, decided_baseInterval settings environment,
    decided_maxInterval settings environment, rfl, maxAttempts_dependsOn, baseInterval_dependsOn,
    maxInterval_dependsOn, attempts.least_le (by decide)⟩

/-- No attempt is raised to one over the nine of the configuration, and neither a negative number
nor one beyond 64 bits is read. -/
example : policy ⟨some 9, .none, some 0, some [.busy]⟩
    [("MSTAT_RETRY_MAX", "+0"), ("MSTAT_RETRY_BASE_MS", "-3"),
      ("MSTAT_RETRY_MAX_MS", "18446744073709551616")] =
    ⟨1, .ofMillis 100, .ofMillis 1, [.busy]⟩ := by
  decide

end RetrySettings

end Statbook
