import Statbook.Backend.Scripted
import Statbook.Proofs.Cache.Fingerprint
import Statbook.Proofs.Registry.Plan

/-!
# Which questions share a cache key

Filters with one fingerprint may still be told apart: conditions and joins are computed from
all filters, nulls included, and a template or a column is compared with infinities as they
are. Where neither happens, one fingerprint stands for one query.
-/

namespace Statbook.Registry

variable {σ : Type} {backend : Backend σ} {registry : Registry} {spec : AggregateSpec}
  {filters filters' : Filters} {now : Timestamp} {state : σ}

/-- There are as many constraints as filters with a value. -/
theorem length_filterConstraints {constraints : List Constraint}
    (resolved : registry.filterConstraints spec filters now = .ok constraints) :
    constraints.length = filters.effective.length := by
  rw [filterConstraints_eq, ← Filters.effective_eq_valued, mapM_eq_ok_iff] at resolved
  exact resolved.length_eq.symm

/-- Filters that constrain the same get the same constraints. -/
theorem filterConstraints_congr (same : filters.effective = filters'.effective) :
    registry.filterConstraints spec filters now = registry.filterConstraints spec filters' now := by
  rw [filterConstraints_eq, filterConstraints_eq, ← Filters.effective_eq_valued, same,
    Filters.effective_eq_valued]

/-- The query that is built, or the first error, from its parts. -/
theorem buildQuery_eq (narrowed : Except StatError Query)
    (chained : backend.Chained state spec.scopes (.all registry.model.table) narrowed) :
    registry.buildQuery backend spec filters now state = narrowed.bind fun query =>
      (registry.filterConstraints spec filters now).map fun constraints =>
        ⟨query.table, query.scopes, query.joins ++ joins spec filters,
          query.constraints ++ conditions spec filters ++ constraints⟩ := by
  rw [← chained.eq_foldlM]
  unfold buildQuery
  cases (spec.scopes.filter (· ≠ wholeTableScope)).foldlM (backend.applyScope state)
      (.all registry.model.table) with
  | error error => rfl
  | ok query => cases registry.filterConstraints spec filters now <;> rfl

/-- Filters whose effective values have the same keys ask for the same query exactly if nothing
that is computed from them differs, unless no query comes about. -/
theorem buildQuery_eq_iff (keys : filters.effective.map Prod.fst = filters'.effective.map Prod.fst) :
    registry.buildQuery backend spec filters now state =
        registry.buildQuery backend spec filters' now state ↔
      (∃ error, backend.Chained state spec.scopes (.all registry.model.table) (.error error)) ∨
      registry.filterConstraints spec filters now = registry.filterConstraints spec filters' now ∧
        ((∃ error, registry.filterConstraints spec filters now = .error error) ∨
          conditions spec filters = conditions spec filters' ∧
            joins spec filters = joins spec filters') := by
  obtain ⟨narrowed, chained⟩ : ∃ narrowed,
      backend.Chained state spec.scopes (.all registry.model.table) narrowed :=
    ⟨_, Backend.chained_foldlM spec.scopes (.all registry.model.table)⟩
  have lengths : filters.effective.length = filters'.effective.length := by
    simpa using congrArg List.length keys
  rw [buildQuery_eq narrowed chained, buildQuery_eq narrowed chained]
  cases narrowed with
  | error error =>
    simp only [Except.bind, true_iff]
    exact Or.inl ⟨error, chained⟩
  | ok query =>
    have allowed : ¬∃ error,
        backend.Chained state spec.scopes (.all registry.model.table) (.error error) := by
      rintro ⟨error, refused⟩
      exact absurd (chained.eq_foldlM.symm.trans refused.eq_foldlM) (by simp)
    simp only [Except.bind, allowed, false_or]
    cases resolved : registry.filterConstraints spec filters now with
    | error error =>
      cases registry.filterConstraints spec filters' now <;> simp [Except.map]
    | ok constraints =>
      cases resolved' : registry.filterConstraints spec filters' now with
      | error error' => simp [Except.map]
      | ok constraints' =>
        have sizes : constraints.length = constraints'.length := by
          rw [length_filterConstraints resolved, length_filterConstraints resolved', lengths]
        simp only [Except.map, Except.ok.injEq, Query.mk.injEq, true_and, List.append_cancel_left_eq,
          List.append_assoc, reduceCtorEq, exists_false, false_or]
        constructor
        · rintro ⟨sameJoins, sameConstraints⟩
          -- As many constraints stand at the end of both lists, so these are cut at one place.
          obtain ⟨sameConditions, same⟩ := List.append_inj' sameConstraints sizes
          exact ⟨same, sameConditions, sameJoins⟩
        · rintro ⟨same, sameConditions, sameJoins⟩
          exact ⟨sameJoins, by rw [sameConditions, same]⟩

/-- Two filters with one fingerprint lead to the same query, or to the same error, exactly if
no condition, join or constraint tells them apart that is reached; and no constraint does unless a
float is infinite or no number, or a time is in a leap second that no clock face has. Only the two
texts that are digested must not collide. -/
theorem buildQuery_of_fingerprint_eq (backend : Backend σ) (registry : Registry)
    (definition : Definition) (spec : AggregateSpec) (filters filters' : Filters)
    (now : Timestamp) (state : σ)
    (same : fingerprint registry.model.name definition.name filters =
      fingerprint registry.model.name definition.name filters')
    (collisionFree :
      Blake3.hexDigest (fingerprintBytes registry.model.name definition.name filters) =
        Blake3.hexDigest (fingerprintBytes registry.model.name definition.name filters') →
      fingerprintBytes registry.model.name definition.name filters =
        fingerprintBytes registry.model.name definition.name filters') :
    (registry.buildQuery backend spec filters now state =
        registry.buildQuery backend spec filters' now state ↔
      (∃ error, backend.Chained state spec.scopes (.all registry.model.table) (.error error)) ∨
      registry.filterConstraints spec filters now = registry.filterConstraints spec filters' now ∧
        ((∃ error, registry.filterConstraints spec filters now = .error error) ∨
          conditions spec filters = conditions spec filters' ∧
            joins spec filters = joins spec filters')) ∧
    (filters.HaveNumbers → filters'.HaveNumbers → filters.OnFace → filters'.OnFace →
      registry.filterConstraints spec filters now =
        registry.filterConstraints spec filters' now) := by
  have bytes := collisionFree (hexDigest_eq_of_fingerprint_eq same)
  have kernels := (kernel_eq_of_fingerprintBytes_eq bytes).2.2
  refine ⟨buildQuery_eq_iff (Filters.keys_eq_of_kernel_eq kernels), ?_⟩
  intro numbers numbers' there there'
  exact filterConstraints_congr
    (Filters.effective_eq_of_kernel_eq numbers numbers' there there' kernels)

/-- The filters `active=true` with `team` given as null, which constrains nothing. -/
def activeOfNoTeam : Filters := .ofList [("active", .bool true), ("team", .null)]

/-- A registry of items without statistics and rules. -/
def items : Registry := .empty ⟨"item", "items"⟩ [] .standard

/-- A count of items that compares the column `active` with its filter. -/
def activeCount : AggregateSpec :=
  { AggregateSpec.over .count with rules := [("active", .equality)] }

/-- The count, with a join where a team is given, be it as null. -/
def joinedCount : AggregateSpec :=
  { activeCount with
    joins := some (.choice (.has "team") ["JOIN teams ON teams.id = items.team_id"] []) }

theorem buildQuery_of_null_team :
    fingerprint items.model.name "count" activeOfNoTeam =
      fingerprint items.model.name "count" (.ofList [("active", .bool true)]) ∧
    items.buildQuery Script.backend activeCount activeOfNoTeam .last ⟨[], [], .ok .null, [], []⟩ =
      items.buildQuery Script.backend activeCount (.ofList [("active", .bool true)]) .last
        ⟨[], [], .ok .null, [], []⟩ := by
  have same : fingerprint items.model.name "count" activeOfNoTeam =
      fingerprint items.model.name "count" (.ofList [("active", .bool true)]) :=
    fingerprint_eq_of_kernel_eq _ _ rfl
  have numbers : activeOfNoTeam.HaveNumbers := by decide
  have numbers' : (Filters.ofList [("active", .bool true)]).HaveNumbers := by decide
  obtain ⟨exactly, numeric⟩ := buildQuery_of_fingerprint_eq Script.backend items
    ⟨"count", .aggregate activeCount, none⟩ activeCount activeOfNoTeam
    (.ofList [("active", .bool true)]) .last ⟨[], [], .ok .null, [], []⟩ same
    fun _ => fingerprintBytes_congr _ _ rfl
  have constraints := numeric numbers numbers' (by decide) (by decide)
  exact ⟨same, exactly.mpr (Or.inr ⟨constraints, Or.inr ⟨rfl, rfl⟩⟩)⟩

/-- A join that looks for a key tells a null from nothing, which a fingerprint does not. -/
theorem buildQuery_ne_of_null_team :
    fingerprint items.model.name "count" activeOfNoTeam =
      fingerprint items.model.name "count" (.ofList [("active", .bool true)]) ∧
    items.buildQuery Script.backend joinedCount activeOfNoTeam .last ⟨[], [], .ok .null, [], []⟩ ≠
      items.buildQuery Script.backend joinedCount (.ofList [("active", .bool true)]) .last
        ⟨[], [], .ok .null, [], []⟩ := by
  refine ⟨fingerprint_eq_of_kernel_eq _ _ rfl, ?_⟩
  decide

end Statbook.Registry
