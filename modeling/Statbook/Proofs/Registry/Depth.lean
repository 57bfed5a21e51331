import Statbook.Proofs.Registry.Requests
import Statbook.Registry.Formula

/-!
# Statistics read by calculations

A calculation reads its siblings one level deeper than it was read itself, and from a certain depth on
no calculation is begun any more. Where nothing is cached that limit is all that the depth does: a
statistic that has a result when it is read deep down has the same one when it is read further up.
-/

namespace Statbook

variable {σ : Type}

/-- Every formula ends with the first error that it is given. -/
theorem Formula.prompt_andThen (formula : Formula) {next : StatValue → Derivation}
    (each : ∀ value, (next value).Prompt) : (formula.andThen next).Prompt := by
  induction formula generalizing next with
  | const value => exact each value
  | sibling name => exact .sibling (fun error => rfl) each
  | arithmetic operation left right left_ih right_ih =>
    apply left_ih
    intro a
    apply right_ih
    intro b
    exact each (operation.apply a b)
  | orElse first second first_ih second_ih =>
    apply first_ih
    intro value
    by_cases null : value.isNull
    · rw [if_pos null]
      exact second_ih each
    · rw [if_neg null]
      exact each value
  | sumOfAll => exact .siblings (fun error => rfl) fun values => each _
  | countOfAll => exact .siblings (fun error => rfl) fun values => each _
  | filterInt key =>
    apply Derivation.Prompt.filters
    intro filters
    cases (filters.get? key).bind FilterValue.int? with
    | none => exact each .null
    | some value => exact each (.int value)
  | fail error => exact .done (.error error)

theorem Formula.prompt_derivation (formula : Formula) : formula.derivation.Prompt :=
  formula.prompt_andThen fun value => .done (.ok value)

namespace Registry

variable {backend : Backend σ} {registry : Registry} {filters : Filters}

theorem mem_of_mem_setDefinition {definition new : Definition} {definitions : List Definition}
    (member : definition ∈ setDefinition new definitions) :
    definition = new ∨ definition ∈ definitions := by
  induction definitions with
  | nil => exact .inl (List.mem_singleton.mp member)
  | cons head tail ih =>
    unfold setDefinition at member
    split at member
    · rcases List.mem_cons.mp member with same | later
      · exact .inl same
      · exact .inr (List.mem_cons_of_mem head later)
    · rcases List.mem_cons.mp member with same | later
      · exact .inr (same ▸ List.mem_cons_self)
      · exact (ih later).imp_right (List.mem_cons_of_mem head)

theorem prompt_empty (model : ModelInfo) (rules : FilterRules) (retry : RetryPolicy) :
    (Registry.empty model rules retry).Prompt := by
  intro definition member
  exact absurd member List.not_mem_nil

/-- A registry stays prompt when an aggregate or a prompt calculation is defined. -/
theorem Prompt.define (prompt : registry.Prompt) {definition : Definition}
    (new : ∀ derivation, definition.kind = .calculated derivation → derivation.Prompt) :
    (registry.define definition).Prompt := by
  intro other member derivation kind
  rcases mem_of_mem_setDefinition member with same | old
  · exact new derivation (same ▸ kind)
  · exact prompt other old derivation kind

/-- Evaluates a statistic that is read within so many calculations. -/
def evaluateAtDepth (backend : Backend σ) (registry : Registry) (filters : Filters)
    (depth : Nat) : Evaluator σ :=
  registry.evaluateAt backend filters (maxDerivationDepth - depth)

theorem evaluateAtDepth_zero (name : String) :
    registry.evaluateAtDepth backend filters 0 name = registry.evaluate backend name filters :=
  rfl

/-- Below the limit a calculation reads its siblings one level deeper; from it on none is begun. -/
theorem evaluateAtDepth_eq (depth : Nat) : registry.evaluateAtDepth backend filters depth =
    registry.evaluateWith backend filters
      (if depth < maxDerivationDepth then
        some (registry.evaluateAtDepth backend filters (depth + 1)) else none) := by
  unfold evaluateAtDepth
  by_cases below : depth < maxDerivationDepth
  · have levels : maxDerivationDepth - depth = maxDerivationDepth - (depth + 1) + 1 := by
      omega
    rw [if_pos below, levels]
    rfl
  · have none : maxDerivationDepth - depth = 0 := by
      omega
    rw [if_neg below, none]
    rfl

/-- Without cacheable statistics and with a backend whose answers do not depend on its state, an
evaluation at any depth gives what the statistic is worth with the levels that are left. -/
theorem fst_evaluateAtDepth (steady : backend.Steady)
    (uncacheable : ∀ definition ∈ registry.definitions, ¬definition.isCacheable) (state : σ)
    (depth : Nat) (name : String) (session : Session σ) :
    (registry.evaluateAtDepth backend filters depth name session).1 =
      registry.worthAt backend session.now state filters (maxDerivationDepth - depth) name := by
  have untimed : ∀ definition ∈ registry.definitions, definition.ttl = none := by
    intro definition member
    simpa [Definition.isCacheable] using uncacheable definition member
  exact (yields_evaluateAt steady untimed (maxDerivationDepth - depth) name session rfl).2

/-- Where nothing is cached and calculations return the errors of siblings at once, a statistic that
is read `deep` calculations down and is not refused for that depth has the same result wherever it is
read above, at the same time and from any state. So all depths that do not refuse it agree. -/
theorem evaluateAtDepth_of_le (backend : Backend σ) (registry : Registry)
    (steady : backend.Steady)
    (uncacheable : ∀ definition ∈ registry.definitions, ¬definition.isCacheable)
    (prompt : registry.Prompt) (name : String) (filters : Filters) (session session' : Session σ)
    (clock : session'.now = session.now) :
    (∀ shallow deep, shallow ≤ deep →
      Settled (registry.evaluateAtDepth backend filters deep name session).1 →
      (registry.evaluateAtDepth backend filters shallow name session').1 =
        (registry.evaluateAtDepth backend filters deep name session).1) ∧
    ∀ depth depth', Settled (registry.evaluateAtDepth backend filters depth name session).1 →
      Settled (registry.evaluateAtDepth backend filters depth' name session').1 →
      (registry.evaluateAtDepth backend filters depth' name session').1 =
        (registry.evaluateAtDepth backend filters depth name session).1 := by
  have rising : Rising fun levels =>
      registry.worthAt backend session.now session.backend filters levels name :=
    rising_worthAt prompt name
  simp only [fst_evaluateAtDepth steady uncacheable session.backend, clock]
  constructor
  · intro shallow deep le settled
    exact rising _ _ (Nat.sub_le_sub_left le maxDerivationDepth) settled
  · intro depth depth' settled settled'
    exact rising.unique settled' settled

/-- The number of items, for a team only those of teams. -/
def teamTotal : Definition :=
  ⟨"total", .aggregate { AggregateSpec.over .count with
    rules := [("hours", .equality)]
    conditions := [.choice (.has "team") (some (.sql "team_id > 0")) none] }, none⟩

/-- Twice the number of items and the hours of a shift. -/
def shiftLoad : Formula :=
  .arithmetic .add (.arithmetic .mul (.const (.int 2)) (.sibling "total")) (.filterInt "hours")

/-- That number, that calculation, and the sum of both. -/
def shiftItems : Registry :=
  (((Registry.empty ⟨"item", "items"⟩ [] .once).define teamTotal).define
    ⟨"load", .calculated shiftLoad.derivation, none⟩).define
    ⟨"report", .calculated Formula.sumOfAll.derivation, none⟩

theorem prompt_shiftItems : shiftItems.Prompt := by
  apply Prompt.define
  · apply Prompt.define
    · apply Prompt.define (prompt_empty _ _ _)
      intro derivation kind
      cases kind
    · intro derivation kind
      cases kind
      exact shiftLoad.prompt_derivation
  · intro derivation kind
    cases kind
    exact Formula.prompt_derivation .sumOfAll

/-- The sum is refused at depth fifteen, where the calculation among its siblings is too deep. At
depth fourteen it is not, and it is the same where nothing reads it. -/
theorem shiftItems_at_depths :
    let filters := Filters.ofList [("hours", .int 3)]
    let session : Session Unit := ⟨.last, .empty 1, ()⟩
    let report (depth : Nat) :=
      (shiftItems.evaluateAtDepth sevenBackend filters depth "report" session).1
    report 15 = .error (.derivationDepth "load") ∧ report 14 = .ok (some (.int 24)) ∧
      report 0 = report 14 := by
  intro filters session report
  have deep : report 14 = .ok (some (.int 24)) := by
    decide +kernel
  have uncacheable : ∀ definition ∈ shiftItems.definitions, ¬definition.isCacheable := by
    decide
  have settled : Settled (report 14) := by
    rw [deep]
    exact settled_ok _
  obtain ⟨above, -⟩ := evaluateAtDepth_of_le sevenBackend shiftItems
    ⟨fun _ _ => rfl, fun _ _ _ _ _ => rfl⟩ uncacheable prompt_shiftItems "report" filters session
    session rfl
  exact ⟨by decide +kernel, deep, above 0 14 (by decide) settled⟩

end Registry

end Statbook
