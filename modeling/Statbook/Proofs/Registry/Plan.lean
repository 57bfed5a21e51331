import Statbook.Registry.Basic
import Statbook.Proofs.Backend.Results
import Statbook.Proofs.Backend.Scopes
import Statbook.Proofs.Filter.Valued
import Statbook.Proofs.Text.Bytes

/-!
# What an aggregate asks about

The query of an aggregate, told without the loops that build it: what each scope, condition,
join and filter contributes and in which order, and which error stands for a question that
cannot be asked.
-/

namespace Statbook

namespace Dynamic

variable {α : Type} {filters : Filters}

/-- What an option comes to under some filters: what it is fixed to, or what it makes of them. -/
inductive Gives (filters : Filters) : Dynamic α → α → Prop
  | fixed {value : α} : Gives filters (.fixed value) value
  | computed {compute : Filters → α} : Gives filters (.computed compute) (compute filters)

theorem gives_iff {option : Dynamic α} {value : α} :
    option.Gives filters value ↔ option.resolve filters = value := by
  constructor
  · rintro (- | -) <;> rfl
  · rintro rfl
    cases option with
    | fixed value => exact .fixed
    | computed compute => exact .computed

/-- What options that may come to nothing come to one after another. -/
inductive ComeTo (filters : Filters) : List (Dynamic (Option α)) → List α → Prop
  | nil : ComeTo filters [] []
  | nothing {option : Dynamic (Option α)} {options : List (Dynamic (Option α))} {values : List α} :
      option.Gives filters none → ComeTo filters options values →
      ComeTo filters (option :: options) values
  | value {option : Dynamic (Option α)} {value : α} {options : List (Dynamic (Option α))}
      {values : List α} :
      option.Gives filters (some value) → ComeTo filters options values →
      ComeTo filters (option :: options) (value :: values)

theorem comeTo_iff {options : List (Dynamic (Option α))} {values : List α} :
    ComeTo filters options values ↔ options.filterMap (resolve · filters) = values := by
  constructor
  · intro come
    induction come with
    | nil => rfl
    | nothing gives _ ih => rw [List.filterMap_cons, gives_iff.mp gives, ih]
    | value gives _ ih => rw [List.filterMap_cons, gives_iff.mp gives, ih]
  · rintro rfl
    induction options with
    | nil => exact .nil
    | cons option options ih =>
      cases given : option.resolve filters with
      | none =>
        rw [List.filterMap_cons, given]
        exact .nothing (gives_iff.mpr given) ih
      | some value =>
        rw [List.filterMap_cons, given]
        exact .value (gives_iff.mpr given) ih

end Dynamic

namespace Registry

variable {σ : Type} {backend : Backend σ} {registry : Registry} {spec : AggregateSpec}
  {filters : Filters} {now : Timestamp} {state : σ}

/-- An aggregate that declares joins has those that these come to, another one has none. -/
inductive Joined (filters : Filters) : Option (Dynamic (List String)) → List String → Prop
  | none : Joined filters none []
  | some {option : Dynamic (List String)} {clauses : List String} :
      option.Gives filters clauses → Joined filters (some option) clauses

theorem comeTo_conditions (spec : AggregateSpec) (filters : Filters) :
    Dynamic.ComeTo filters spec.conditions (conditions spec filters) :=
  Dynamic.comeTo_iff.mpr rfl

theorem joined_joins (spec : AggregateSpec) (filters : Filters) :
    Joined filters spec.joins (joins spec filters) := by
  unfold joins
  cases spec.joins with
  | none => exact .none
  | some option => exact .some (Dynamic.gives_iff.mpr rfl)

/-- The rules that count for a statistic: its own first, then those of the model, and then those
that every model has. -/
def rulesFor (registry : Registry) (spec : AggregateSpec) : FilterRules :=
  spec.rules ++ (registry.modelRules ++ registry.inheritedRules)

/-- The first rule for a key is the one that counts. -/
theorem rule?_eq_lookup (registry : Registry) (spec : AggregateSpec) (key : String) :
    registry.rule? spec key = (registry.rulesFor spec).lookup key := by
  rw [rule?, rulesFor, List.lookup_append, List.lookup_append]

/-- The constraint that a filter with a value asks for under the rules of a statistic. -/
def constraintOf (registry : Registry) (spec : AggregateSpec) (now : Timestamp)
    (pair : String × FilterValue) : Except StatError Constraint :=
  match (registry.rulesFor spec).lookup pair.1 with
  | some rule => rule.apply pair.1 pair.2 registry.model.table now pair.1
  | none => FilterRule.applyDefault pair.1 pair.2 now

/-- A null asks for nothing, any other value for one constraint. -/
theorem resolve_eq (pair : String × FilterValue) :
    FilterRule.resolve pair.1 pair.2 ((registry.rulesFor spec).lookup pair.1) registry.model.table
        now =
      if pair.2.isNull then .ok none else (registry.constraintOf spec now pair).map some := by
  unfold FilterRule.resolve constraintOf
  split
  · rfl
  · cases (registry.rulesFor spec).lookup pair.1 <;> rfl

theorem resolve_eq_some_iff {pair : String × FilterValue} (member : pair ∈ filters.valued)
    {constraint : Constraint} :
    FilterRule.resolve pair.1 pair.2 ((registry.rulesFor spec).lookup pair.1) registry.model.table
        now = .ok (some constraint) ↔
      registry.constraintOf spec now pair = .ok constraint := by
  rw [resolve_eq, (Filters.mem_valued_iff.mp member).2]
  cases registry.constraintOf spec now pair <;> simp [Except.map]

theorem resolve_eq_error_iff {pair : String × FilterValue} (member : pair ∈ filters.valued)
    {error : StatError} :
    FilterRule.resolve pair.1 pair.2 ((registry.rulesFor spec).lookup pair.1) registry.model.table
        now = .error error ↔
      registry.constraintOf spec now pair = .error error := by
  rw [resolve_eq, (Filters.mem_valued_iff.mp member).2]
  cases registry.constraintOf spec now pair <;> simp [Except.map]

/-- The constraints of the filters are those of the filters that have a value. -/
theorem filterConstraints_eq : registry.filterConstraints spec filters now =
    filters.valued.mapM (registry.constraintOf spec now) := by
  rw [← Filters.effective_eq_valued]
  unfold filterConstraints Filters.effective
  simp only [rule?_eq_lookup, resolve_eq]
  induction filters.pairs with
  | nil => rfl
  | cons pair pairs ih =>
    rw [List.mapM_cons, List.filter_cons]
    cases null : pair.2.isNull with
    | true =>
      simp only [if_true, Bool.not_true, Bool.false_eq_true, if_false]
      rw [← ih]
      cases pairs.mapM fun pair => if pair.2.isNull then Except.ok none else
        (registry.constraintOf spec now pair).map some <;> rfl
    | false =>
      simp only [Bool.false_eq_true, if_false, Bool.not_false, if_true]
      rw [List.mapM_cons, ← ih]
      cases registry.constraintOf spec now pair with
      | error error => rfl
      | ok constraint =>
        cases pairs.mapM fun pair => if pair.2.isNull then Except.ok none else
          (registry.constraintOf spec now pair).map some <;> rfl

/-- What an aggregate asks about, or why it cannot ask: the first scope that is refused comes
before any filter, and of the filters without a constraint the one with the least key counts. -/
inductive Outlines (backend : Backend σ) (registry : Registry) (spec : AggregateSpec)
    (filters : Filters) (now : Timestamp) (state : σ) : Except StatError Query → Prop
  | refused {error : StatError} :
      backend.Chained state spec.scopes (.all registry.model.table) (.error error) →
      Outlines backend registry spec filters now state (.error error)
  | unresolved {narrowed : Query} {pair : String × FilterValue} {error : StatError} :
      backend.Chained state spec.scopes (.all registry.model.table) (.ok narrowed) →
      pair ∈ filters.valued →
      FilterRule.resolve pair.1 pair.2 ((registry.rulesFor spec).lookup pair.1)
        registry.model.table now = .error error →
      (∀ other ∈ filters.valued, ∀ error', FilterRule.resolve other.1 other.2
          ((registry.rulesFor spec).lookup other.1) registry.model.table now = .error error' →
        other = pair ∨ Text.bytes pair.1 < Text.bytes other.1) →
      Outlines backend registry spec filters now state (.error error)
  | query {narrowed : Query} {conditions constraints : List Constraint} {joins : List String} :
      backend.Chained state spec.scopes (.all registry.model.table) (.ok narrowed) →
      Dynamic.ComeTo filters spec.conditions conditions →
      Joined filters spec.joins joins →
      List.Forall₂ (fun pair constraint => FilterRule.resolve pair.1 pair.2
          ((registry.rulesFor spec).lookup pair.1) registry.model.table now =
            .ok (some constraint))
        filters.valued constraints →
      Outlines backend registry spec filters now state
        (.ok ⟨narrowed.table, narrowed.scopes, narrowed.joins ++ joins,
          narrowed.constraints ++ conditions ++ constraints⟩)

/-- The query has the constraints of the scopes in order, then those that the conditions come to,
then one for each filter with a value, and the joins of the aggregate and no others. -/
def Consists (meaning : σ → String → String → Except StatError (List Constraint))
    (registry : Registry) (spec : AggregateSpec) (filters : Filters) (now : Timestamp) (state : σ)
    (query : Query) : Prop :=
  ∃ scopeParts conditions filterParts,
    List.Forall₂ (fun scope part => meaning state registry.model.table scope = .ok part)
      (spec.scopes.filter (· ≠ wholeTableScope)) scopeParts ∧
    Dynamic.ComeTo filters spec.conditions conditions ∧
    List.Forall₂ (fun pair constraint => FilterRule.resolve pair.1 pair.2
        ((registry.rulesFor spec).lookup pair.1) registry.model.table now = .ok (some constraint))
      filters.valued filterParts ∧
    query.table = registry.model.table ∧ Joined filters spec.joins query.joins ∧
    query.constraints = scopeParts.flatten ++ conditions ++ filterParts

theorem Outlines.consists {meaning : σ → String → String → Except StatError (List Constraint)}
    (resolves : backend.Resolves meaning) {query : Query}
    (outlines : Outlines backend registry spec filters now state (.ok query)) :
    Consists meaning registry spec filters now state query := by
  cases outlines with
  | query chained come joined resolved =>
    obtain ⟨parts, all, table, joins, constraints⟩ := chained.resolved resolves rfl
    refine ⟨parts, _, _, all, come, resolved, table, ?_, ?_⟩
    · simpa [joins, Query.all] using joined
    · simp [constraints, Query.all]

/-- The query that is built is the one that the aggregate asks about. -/
theorem outlines_buildQuery (backend : Backend σ) (registry : Registry) (spec : AggregateSpec)
    (filters : Filters) (now : Timestamp) (state : σ) :
    Outlines backend registry spec filters now state
      (registry.buildQuery backend spec filters now state) := by
  have chained : backend.Chained state spec.scopes (.all registry.model.table) _ :=
    Backend.chained_foldlM spec.scopes (.all registry.model.table)
  unfold buildQuery
  cases narrowed : (spec.scopes.filter (· ≠ wholeTableScope)).foldlM (backend.applyScope state)
      (.all registry.model.table) with
  | error error =>
    rw [narrowed] at chained
    exact .refused chained
  | ok narrowed' =>
    rw [narrowed] at chained
    rw [filterConstraints_eq]
    cases resolved : filters.valued.mapM (registry.constraintOf spec now) with
    | error error =>
      obtain ⟨before, pair, after, split, passed, fails⟩ := exists_first_of_mapM_error resolved
      -- The keys ascend, so the first filter that fails is the one with the least key.
      have ordered := filters.ascending_valued
      rw [split, List.pairwise_append] at ordered
      have member : pair ∈ filters.valued := by simp [split]
      refine .unresolved chained member ((resolve_eq_error_iff member).mpr fails) ?_
      intro other member' error' fails'
      rw [resolve_eq_error_iff member'] at fails'
      rw [split] at member'
      rcases List.mem_append.mp member' with early | late
      · obtain ⟨constraint, passes⟩ := passed other early
        rw [passes] at fails'
        cases fails'
      · rcases List.mem_cons.mp late with same | late
        · exact Or.inl same
        · have less := (List.pairwise_cons.mp ordered.2.1).1 other late
          exact Or.inr ((Text.lt_iff_bytes_lt _ _).mp less)
    | ok constraints =>
      have each := mapM_eq_ok_iff.mp resolved
      refine .query chained (comeTo_conditions spec filters) (joined_joins spec filters)
        (forall₂_of_mem each ?_)
      intro pair member constraint resolves
      exact (resolve_eq_some_iff member).mpr resolves

end Registry

end Statbook
