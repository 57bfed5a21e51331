import Statbook.Proofs.Config.Models
import Statbook.Proofs.Config.Scopes
import Statbook.Proofs.Filter.Rule
import Statbook.Proofs.Registry.Calls

/-!
# Queries of a configuration

The query of a statistic that is declared without code starts with the conditions of its scopes,
as the last model of the table declares them, and is refused when no model of the table does.
-/

namespace Statbook

open Sqlite Fallible

namespace Sqlite.Connection

variable {connection : Connection} {query : Query} {error : StatError}

/-- The first of some scopes that a connection does not know for a table. -/
def unknown? (connection : Connection) (table : String) (scopes : List String) : Option String :=
  scopes.find? fun scope => (connection.scope? table scope).isNone

theorem applyScope_of_ne {scope : String} (different : scope ≠ wholeTableScope) :
    connection.applyScope query scope =
      match connection.scope? query.table scope with
      | some constraints => .ok ((query.noteScope scope).constrain constraints)
      | none => .error (.unknownScope query.table scope) := by
  rw [applyScope, if_neg different]
  rfl

/-- Scopes are refused because of the first one that is not known. -/
theorem foldlM_applyScope_eq_error_iff {scopes : List String}
    (others : ∀ scope ∈ scopes, scope ≠ wholeTableScope) :
    scopes.foldlM connection.applyScope query = .error error ↔
      ∃ scope, connection.unknown? query.table scopes = some scope ∧
        error = .unknownScope query.table scope := by
  induction scopes generalizing query with
  | nil => simp [unknown?, pure, Except.pure]
  | cons scope scopes ih =>
    rw [List.foldlM_cons, applyScope_of_ne (others scope List.mem_cons_self)]
    unfold unknown?
    cases known : connection.scope? query.table scope with
    | none =>
      rw [List.find?_cons_of_pos (by simp [known])]
      simp [bind, Except.bind, eq_comm]
    | some constraints =>
      rw [List.find?_cons_of_neg (by simp [known])]
      exact ih fun other member => others other (List.mem_cons_of_mem _ member)

end Sqlite.Connection

namespace Registry

variable {registry : Registry} {filters : Filters} {spec : AggregateSpec} {now : Timestamp}
  {connection : Connection}

theorem queryFor_of_aggregate {σ : Type} {backend : Backend σ} {name : String}
    {definition : Definition} (found : registry.definition? name = some definition)
    (kind : definition.kind = .aggregate spec) (session : Session σ) :
    (registry.queryFor backend name filters session).1 =
      (registry.buildQuery backend spec filters session.now session.backend).map some := by
  obtain ⟨name', kind', ttl⟩ := definition
  obtain rfl : kind' = .aggregate spec := kind
  unfold queryFor
  simp only [found]
  rw [bind_apply]
  unfold buildQueryIn
  cases registry.buildQuery backend spec filters session.now session.backend <;> rfl

/-- The error of a filter is none of a scope. -/
theorem filterConstraints_ne_unknownScope (table scope : String) :
    registry.filterConstraints spec filters now ≠ .error (.unknownScope table scope) := by
  intro failed
  unfold filterConstraints at failed
  obtain ⟨-, pair, -, -, -, refused⟩ :=
    exists_first_of_mapM_error (map_eq_error_iff.mp failed)
  rcases FilterRule.resolve_eq_error refused with unknown | ⟨reason, invalid⟩
  · cases unknown
  · cases invalid

/-- A query is refused for a scope exactly if that is the first one that is not known. -/
theorem buildQuery_eq_unknownScope_iff {table scope : String} :
    registry.buildQuery Connection.backend spec filters now connection =
        .error (.unknownScope table scope) ↔
      table = registry.model.table ∧ connection.unknown? registry.model.table
        (spec.scopes.filter (· ≠ wholeTableScope)) = some scope := by
  have others : ∀ scope ∈ spec.scopes.filter (· ≠ wholeTableScope), scope ≠ wholeTableScope :=
    fun scope member => by simpa using (List.mem_filter.mp member).2
  have same : registry.buildQuery Connection.backend spec filters now connection =
        .error (.unknownScope table scope) ↔
      (spec.scopes.filter (· ≠ wholeTableScope)).foldlM connection.applyScope
        (.all registry.model.table) = .error (.unknownScope table scope) := by
    unfold buildQuery
    show (List.foldlM connection.applyScope _ _ >>= _) = _ ↔ _
    cases (spec.scopes.filter (· ≠ wholeTableScope)).foldlM connection.applyScope
        (.all registry.model.table) with
    | error error => exact Iff.rfl
    | ok query =>
      have passed : registry.filterConstraints spec filters now ≠
          .error (.unknownScope table scope) := filterConstraints_ne_unknownScope table scope
      cases resolved : registry.filterConstraints spec filters now with
      | error error => simpa [resolved, bind, Except.bind] using passed
      | ok constraints => simp [bind, Except.bind, pure, Except.pure]
  rw [same, Connection.foldlM_applyScope_eq_error_iff others]
  constructor
  · rintro ⟨scope', first, equal⟩
    obtain ⟨rfl, rfl⟩ := StatError.unknownScope.inj equal
    exact ⟨rfl, first⟩
  · rintro ⟨rfl, first⟩
    exact ⟨scope, first, rfl⟩

end Registry

namespace Config

variable {config : Config} {table : String} {connection : Connection}

/-- What a connection knows of the scopes of a configuration. -/
theorem parts_of_meaning
    (knows : ∀ scope, connection.scope? table scope =
      (config.scope? table scope).map (·.map .sql))
    {scopes : List String} (others : ∀ scope ∈ scopes, scope ≠ wholeTableScope)
    {meant : List (List Constraint)} (each : List.Forall₂
      (fun scope part => Backend.sqliteMeaning connection table scope = .ok part) scopes meant) :
    ∃ parts, List.Forall₂ (fun scope part => config.scope? table scope = some part) scopes parts ∧
      meant = parts.map (·.map .sql) := by
  induction each with
  | nil => exact ⟨[], .nil, rfl⟩
  | @cons scope part scopes meant means each ih =>
    obtain ⟨parts, declared, rfl⟩ := ih fun other member => others other (List.mem_cons_of_mem _ member)
    have known : connection.scope? table scope = some part := by
      unfold Backend.sqliteMeaning at means
      rw [if_neg (others scope List.mem_cons_self)] at means
      unfold Connection.scope?
      cases found : connection.scopes.lookup (table, scope) with
      | none => simp [found] at means
      | some constraints =>
        rw [found] at means
        rw [Except.ok.inj means]
    rw [knows, Option.map_eq_some_iff] at known
    obtain ⟨conditions, found, rfl⟩ := known
    exact ⟨conditions :: parts, .cons found declared, rfl⟩

/-- Whatever else a sound configuration declares: the query of a statistic starts with the
conditions of its scopes in order, as the last model of its table declares each of them, and it is
refused for a scope exactly if that is the first one that no model of the table declares. Where
no other model of the table declares a scope, its conditions are those of the model itself. -/
theorem query_starts_with_scopes (config : Config) (environment : Variables) (now : Timestamp)
    (connection : Connection) (catalog : Catalog) (session : Session Connection)
    (model : ModelConfig) (statistic : StatisticConfig) (sound : config.flaw? = none)
    (unscoped : connection.scopes = [])
    (built : config.build environment now connection = .ok (catalog, session))
    (declared : model ∈ config.models) (offered : statistic ∈ model.statistics) :
    let scopes := statistic.scopes.filter (· ≠ wholeTableScope)
    (∃ registry, catalog.registry? model.name = some registry ∧
      ∀ (filters : Filters) (asked : Session Connection),
        asked.backend.scopes = session.backend.scopes →
        let answer := (registry.queryFor Connection.backend statistic.name filters asked).1
        answer ≠ .ok none ∧
        (∀ query, answer = .ok (some query) → ∃ parts constraints,
          List.Forall₂ (fun scope part => config.scope? model.table scope = some part)
            scopes parts ∧
          query.table = model.table ∧
          query.constraints = parts.flatten.map .sql ++ statistic.conditions.map .sql ++
            constraints ∧
          constraints.length = filters.effective.length) ∧
        ∀ table scope, answer = .error (.unknownScope table scope) ↔
          table = model.table ∧
            (scopes.find? fun scope => (config.scope? model.table scope).isNone) = some scope) ∧
    ∀ scope, (∀ other ∈ config.models, other.table = model.table → other.scope? scope ≠ none →
      other = model) → config.scope? model.table scope = model.scope? scope := by
  intro scopes
  obtain ⟨kept, registered⟩ := build_eq_ok sound built
  obtain ⟨registry, found, table, defined⟩ := registered model declared
  obtain ⟨definition, made, there⟩ := defined statistic offered
  obtain ⟨-, spec, specified, kind⟩ := StatisticConfig.toDefinition_eq_ok made
  obtain ⟨chained, conditions⟩ := StatisticConfig.toSpec_eq_ok specified
  refine ⟨⟨registry, found, fun filters asked same => ?_⟩, fun scope alone =>
    scope?_eq_of_alone declared alone⟩
  have knows (scope : String) : asked.backend.scope? model.table scope =
      (config.scope? model.table scope).map (·.map .sql) := by
    have before : connection.scope? model.table scope = none := by
      rw [Connection.scope?, unscoped]
      rfl
    rw [Connection.scope?, same, kept]
    show (config.defineScopes connection).scope? model.table scope = _
    rw [scope?_defineScopes, before, Option.or_none]
  intro answer
  have answered : answer = (registry.buildQuery Connection.backend spec filters asked.now
      asked.backend).map some :=
    Registry.queryFor_of_aggregate there kind asked
  refine ⟨?_, fun query asks => ?_, fun table' scope => ?_⟩
  · rw [answered]
    intro nothing
    obtain ⟨query, -, absurd⟩ := map_eq_ok_iff.mp nothing
    cases absurd
  · have outlines := Registry.outlines_buildQuery Connection.backend registry spec filters
      asked.now asked.backend
    have asks : registry.buildQuery Connection.backend spec filters asked.now asked.backend =
        .ok query := by
      obtain ⟨query', result, same⟩ := map_eq_ok_iff.mp (answered.symm.trans asks)
      rw [result, Option.some.inj same]
    rw [asks] at outlines
    obtain ⟨meant, come, constraints, each, comes, resolved, table', -, all⟩ :=
      outlines.consists Backend.resolves_sqlite
    obtain rfl : Registry.conditions spec filters = come := Dynamic.comeTo_iff.mp comes
    rw [chained, table] at each
    obtain ⟨parts, declares, rfl⟩ := parts_of_meaning knows
      (fun scope member => by simpa using (List.mem_filter.mp member).2) each
    refine ⟨parts, constraints, declares, table'.trans table, ?_, ?_⟩
    · rw [all, conditions, List.map_flatten]
    · rw [Filters.effective_eq_valued]
      exact resolved.length_eq.symm
  · have unknown : asked.backend.unknown? model.table scopes =
        scopes.find? fun scope => (config.scope? model.table scope).isNone := by
      unfold Connection.unknown?
      congr 1
      funext scope
      rw [knows]
      cases config.scope? model.table scope <;> rfl
    rw [answered, map_eq_error_iff, Registry.buildQuery_eq_unknownScope_iff, chained, table,
      unknown]

/-- A model of the items with two statistics, the second one of which has a scope that the model
does not declare. -/
def youngItems : ModelConfig where
  name := "A"
  table := "items"
  scopes := [("recent", ["age < 7"])]
  rules := []
  statistics := [⟨"S", .count, "id", ["recent"], [], [], [], none⟩,
    ⟨"T", .count, "id", ["old"], [], [], [], none⟩]

/-- A second model of the items, with scopes of the same names. -/
def agedItems : ModelConfig where
  name := "B"
  table := "items"
  scopes := [("old", ["age > 365"]), ("recent", ["age < 30"])]
  rules := []
  statistics := []

/-- Two models of one table. -/
def sharedItems : Config :=
  { Config.empty with models := [youngItems, agedItems] }

/-- A connection to a database without tables. -/
def bareConnection : Connection :=
  .ofDatabase (.ok .empty)

theorem sharedItems_query_starts_with_scopes :
    ∃ catalog session, sharedItems.build [] .last bareConnection = .ok (catalog, session) ∧
      ∃ registry, catalog.registry? "A" = some registry ∧ ∀ filters query,
        (registry.queryFor Connection.backend "S" filters session).1 = .ok (some query) →
          ∃ constraints, query.constraints = .sql "age < 30" :: constraints := by
  obtain ⟨⟨catalog, session⟩, built⟩ :
      ∃ result, sharedItems.build [] .last bareConnection = .ok result := ⟨_, rfl⟩
  obtain ⟨⟨registry, found, starts⟩, -⟩ := query_starts_with_scopes sharedItems [] .last
    bareConnection catalog session youngItems ⟨"S", .count, "id", ["recent"], [], [], [], none⟩
    (by decide) rfl built (by simp [sharedItems]) (by simp [youngItems])
  refine ⟨catalog, session, built, registry, found, fun filters query asks => ?_⟩
  obtain ⟨parts, constraints, declared, -, all, -⟩ := (starts filters session rfl).2.1 query asks
  have parts : parts = [["age < 30"]] := by
    obtain ⟨part, others, found, none, rfl⟩ := List.forall₂_cons_left_iff.mp declared
    obtain rfl := List.forall₂_nil_left_iff.mp none
    rw [Option.some.inj found]
  exact ⟨constraints, by rw [all, parts]; rfl⟩

/-- The first model has the scopes that the second one declares on their table: the second
conditions where it declares a scope itself, and a scope that it does not declare. -/
theorem sharedItems_mixes_scopes :
    sharedItems.flaw? = none ∧
    ∃ catalog session, sharedItems.build [] .last bareConnection = .ok (catalog, session) ∧
      ∃ registry, catalog.registry? youngItems.name = some registry ∧
        youngItems.scope? "recent" = some ["age < 7"] ∧
        (registry.queryFor Connection.backend "S" .empty session).1.map
          (·.map Query.constraints) = .ok (some [.sql "age < 30"]) ∧
        youngItems.scope? "old" = none ∧
        (registry.queryFor Connection.backend "T" .empty session).1.map
          (·.map Query.constraints) = .ok (some [.sql "age > 365"]) :=
  ⟨by decide, _, _, rfl, _, rfl, rfl, rfl, rfl, rfl⟩

end Config

end Statbook
