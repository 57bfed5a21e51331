import Statbook.Proofs.Registry.Evaluation
import Statbook.Proofs.Registry.Levels
import Statbook.Proofs.Registry.Plan

/-!
# What statistics are worth

The value of a statistic as a function of the question alone, for a backend whose answers do
not depend on its state: nothing is cached, and no state is carried along.
-/

namespace Statbook

open Fallible

/-- A backend whose scopes and aggregates do not depend on its state. -/
structure Backend.Steady {σ : Type} (backend : Backend σ) : Prop where
  applyScope : ∀ state state', backend.applyScope state = backend.applyScope state'
  aggregate : ∀ query operation column state state',
    (backend.aggregate query operation column state).1 =
      (backend.aggregate query operation column state').1

/-- The calculation reads sibling values only, and returns the error of a sibling at once. -/
inductive Derivation.Strict : Derivation → Prop
  | done (result : Except StatError StatValue) : Strict (.done result)
  | sibling {name : String} {next : Except StatError StatValue → Derivation} :
      (∀ error, next (.error error) = .done (.error error)) →
      (∀ value, Strict (next (.ok value))) → Strict (.sibling name next)
  | siblings {next : Except StatError (List (String × StatValue)) → Derivation} :
      (∀ error, next (.error error) = .done (.error error)) →
      (∀ values, Strict (next (.ok values))) → Strict (.siblings next)

/-- The calculation returns the error of a sibling at once; it may read the filters as well. -/
inductive Derivation.Prompt : Derivation → Prop
  | done (result : Except StatError StatValue) : Prompt (.done result)
  | sibling {name : String} {next : Except StatError StatValue → Derivation} :
      (∀ error, next (.error error) = .done (.error error)) →
      (∀ value, Prompt (next (.ok value))) → Prompt (.sibling name next)
  | siblings {next : Except StatError (List (String × StatValue)) → Derivation} :
      (∀ error, next (.error error) = .done (.error error)) →
      (∀ values, Prompt (next (.ok values))) → Prompt (.siblings next)
  | filters {next : Filters → Derivation} :
      (∀ filters, Prompt (next filters)) → Prompt (.filters next)

theorem Derivation.Strict.prompt {derivation : Derivation} (strict : derivation.Strict) :
    derivation.Prompt := by
  induction strict with
  | done result => exact .done result
  | sibling fails _ ih => exact .sibling fails ih
  | siblings fails _ ih => exact .siblings fails ih

/-- The option does not depend on the filters. -/
inductive Dynamic.Literal {α : Type} : Dynamic α → Prop
  | fixed (value : α) : Literal (.fixed value)

/-- The conditions and joins of the aggregate do not depend on the filters. -/
structure AggregateSpec.Literal (spec : AggregateSpec) : Prop where
  conditions : ∀ condition ∈ spec.conditions, condition.Literal
  joins : ∀ joins, spec.joins = some joins → joins.Literal

/-- Aggregates with literal options, and strict calculations. -/
def StatisticKind.Plain : StatisticKind → Prop
  | .aggregate spec => spec.Literal
  | .calculated derivation => derivation.Strict

namespace Registry

variable {σ : Type}

/-- The value of a sibling, when `worth` gives the values of all statistics. -/
def siblingWorth (worth : String → Except StatError (Option StatValue)) (caller name : String) :
    Except StatError StatValue :=
  if name = caller then .ok .null
  else (worth name).bind fun value => .ok (value.getD .null)

/-- The values of all siblings. -/
def siblingsWorth (worth : String → Except StatError (Option StatValue)) (names : List String)
    (caller : String) : Except StatError (List (String × StatValue)) :=
  (names.filter (· ≠ caller)).mapM fun name =>
    (siblingWorth worth caller name).bind fun value => .ok (name, value)

/-- The result of a calculation. -/
def derivationWorth (worth : String → Except StatError (Option StatValue)) (names : List String)
    (caller : String) (filters : Filters) : Derivation → Except StatError StatValue
  | .done result => result
  | .sibling name next =>
    derivationWorth worth names caller filters (next (siblingWorth worth caller name))
  | .siblings next =>
    derivationWorth worth names caller filters (next (siblingsWorth worth names caller))
  | .filters next => derivationWorth worth names caller filters (next filters)

/-- The value of an aggregate. -/
def aggregateWorth (backend : Backend σ) (registry : Registry) (now : Timestamp) (state : σ)
    (filters : Filters) (spec : AggregateSpec) : Except StatError StatValue :=
  (registry.buildQuery backend spec filters now state).bind fun query =>
    (backend.aggregate query spec.operation spec.column state).1

/-- The value of a defined statistic; without siblings no calculation is started. -/
def kindWorth (backend : Backend σ) (registry : Registry) (now : Timestamp) (state : σ)
    (filters : Filters) (deeper : Option (String → Except StatError (Option StatValue)))
    (definition : Definition) : Except StatError StatValue :=
  match definition.kind with
  | .aggregate spec => registry.aggregateWorth backend now state filters spec
  | .calculated derivation =>
    match deeper with
    | none => .error (.derivationDepth definition.name)
    | some worth => derivationWorth worth registry.names definition.name filters derivation

/-- The value of any name. -/
def nameWorth (backend : Backend σ) (registry : Registry) (now : Timestamp) (state : σ)
    (filters : Filters) (deeper : Option (String → Except StatError (Option StatValue)))
    (name : String) : Except StatError (Option StatValue) :=
  match registry.definition? name with
  | none => .ok none
  | some definition =>
    (registry.kindWorth backend now state filters deeper definition).bind fun value =>
      .ok (some value)

/-- What a statistic is worth where calculations may be nested `levels` deep below it. -/
def worthAt (backend : Backend σ) (registry : Registry) (now : Timestamp) (state : σ)
    (filters : Filters) : (levels : Nat) → String → Except StatError (Option StatValue)
  | 0 => registry.nameWorth backend now state filters none
  | levels + 1 => registry.nameWorth backend now state filters
      (some (registry.worthAt backend now state filters levels))

variable {backend : Backend σ} {registry : Registry} {now : Timestamp} {state : σ}
  {filters filters' : Filters}

theorem extends_siblingWorth {worth worth' : String → Except StatError (Option StatValue)}
    (each : ∀ name, Extends (worth name) (worth' name)) (caller name : String) :
    Extends (siblingWorth worth caller name) (siblingWorth worth' caller name) := by
  unfold siblingWorth
  split
  · exact .refl _
  · exact (each name).bind fun value => .refl _

theorem extends_siblingsWorth {worth worth' : String → Except StatError (Option StatValue)}
    (each : ∀ name, Extends (worth name) (worth' name)) (names : List String) (caller : String) :
    Extends (siblingsWorth worth names caller) (siblingsWorth worth' names caller) :=
  .mapM (fun name => (extends_siblingWorth each caller name).bind fun _ => .refl _) _

/-- A strict calculation goes on only with the value of a sibling. -/
theorem derivationWorth_sibling {worth : String → Except StatError (Option StatValue)}
    {names : List String} {caller name : String}
    {next : Except StatError StatValue → Derivation}
    (fails : ∀ error, next (.error error) = .done (.error error)) :
    derivationWorth worth names caller filters (.sibling name next) =
      (siblingWorth worth caller name).bind fun value =>
        derivationWorth worth names caller filters (next (.ok value)) := by
  rw [derivationWorth]
  cases siblingWorth worth caller name with
  | error error => rw [fails, derivationWorth, Except.bind]
  | ok value => rfl

theorem derivationWorth_siblings {worth : String → Except StatError (Option StatValue)}
    {names : List String} {caller : String}
    {next : Except StatError (List (String × StatValue)) → Derivation}
    (fails : ∀ error, next (.error error) = .done (.error error)) :
    derivationWorth worth names caller filters (.siblings next) =
      (siblingsWorth worth names caller).bind fun values =>
        derivationWorth worth names caller filters (next (.ok values)) := by
  rw [derivationWorth]
  cases siblingsWorth worth names caller with
  | error error => rw [fails, derivationWorth, Except.bind]
  | ok values => rfl

theorem extends_derivationWorth {worth worth' : String → Except StatError (Option StatValue)}
    (each : ∀ name, Extends (worth name) (worth' name)) {names : List String} {caller : String}
    {derivation : Derivation} (prompt : derivation.Prompt) :
    Extends (derivationWorth worth names caller filters derivation)
      (derivationWorth worth' names caller filters derivation) := by
  induction prompt with
  | done result => exact .refl _
  | sibling fails _ ih =>
    rw [derivationWorth_sibling fails, derivationWorth_sibling fails]
    exact (extends_siblingWorth each caller _).bind ih
  | siblings fails _ ih =>
    rw [derivationWorth_siblings fails, derivationWorth_siblings fails]
    exact (extends_siblingsWorth each names caller).bind ih
  | filters _ ih => exact ih filters

/-- The registry has strict calculations only. -/
def Plain (registry : Registry) : Prop :=
  ∀ definition ∈ registry.definitions, definition.kind.Plain

/-- The calculations of the registry return the errors of siblings at once. -/
def Prompt (registry : Registry) : Prop :=
  ∀ definition ∈ registry.definitions, ∀ derivation,
    definition.kind = .calculated derivation → derivation.Prompt

theorem Plain.prompt (plain : registry.Plain) : registry.Prompt := by
  intro definition member derivation kind
  have strict := plain definition member
  rw [kind] at strict
  exact Derivation.Strict.prompt strict

/-- With more levels a statistic is worth the same, once the levels suffice. -/
theorem rising_worthAt (prompt : registry.Prompt) (name : String) :
    Rising fun levels => registry.worthAt backend now state filters levels name := by
  have step (levels : Nat) (name : String) :
      Extends (registry.worthAt backend now state filters levels name)
        (registry.worthAt backend now state filters (levels + 1) name) := by
    have one (deeper : Option (String → Except StatError (Option StatValue)))
        (worth : String → Except StatError (Option StatValue))
        (below : ∀ worth', deeper = some worth' → ∀ name, Extends (worth' name) (worth name))
        (name : String) : Extends (registry.nameWorth backend now state filters deeper name)
          (registry.nameWorth backend now state filters (some worth) name) := by
      unfold nameWorth
      cases found : registry.definition? name with
      | none => exact .refl _
      | some definition =>
        have member := (definition_of_found found).1
        refine Extends.bind ?_ fun value => .refl _
        unfold kindWorth
        cases kind : definition.kind with
        | aggregate spec => exact .refl _
        | calculated derivation =>
          cases deeper with
          | none => exact fun settled => absurd rfl (settled definition.name)
          | some worth' =>
            exact extends_derivationWorth (below worth' rfl) (prompt definition member _ kind)
    induction levels generalizing name with
    | zero => exact one none _ (fun worth' absent => by cases absent) name
    | succ levels ih =>
      refine one _ _ (fun worth' present => ?_) name
      obtain rfl := Option.some.inj present
      exact ih
  exact rising_of_step fun levels => step levels name

end Registry

end Statbook
