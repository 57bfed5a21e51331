import Statbook.Config.Build

/-!
# Scopes of a configuration

The scopes of all models are declared on one connection, each under the table of its model and
its own name. So models of one table have their scopes in common: what the last of them declares
under a name counts for all.
-/

namespace Statbook

open Sqlite

/-- The conditions that a model declares for a scope; the last ones where it does so again. -/
def ModelConfig.scope? (model : ModelConfig) (scope : String) : Option (List String) :=
  model.scopes.reverse.lookup scope

/-- The conditions that are declared for a scope of a table: those of the last model of the
table that declares any. -/
def Config.scope? (config : Config) (table scope : String) : Option (List String) :=
  config.models.reverse.findSome? fun model =>
    if model.table = table then model.scope? scope else none

variable {table scope : String}

/-- What a scope of a table means to a connection. -/
def Sqlite.Connection.scope? (connection : Connection) (table scope : String) :
    Option (List Constraint) :=
  connection.scopes.lookup (table, scope)

theorem Sqlite.Connection.scope?_defineScope (connection : Connection) (table' scope' : String)
    (constraints : List Constraint) :
    (connection.defineScope table' scope' constraints).scope? table scope =
      if table' = table ∧ scope' = scope then some constraints
      else connection.scope? table scope := by
  unfold scope? defineScope
  rw [List.lookup_cons]
  by_cases same : table' = table ∧ scope' = scope
  · rw [if_pos same]
    have found : ((table, scope) == (table', scope')) = true := by simp [same]
    rw [found]
  · rw [if_neg same]
    have passed : ((table, scope) == (table', scope')) = false := by
      simp only [beq_eq_false_iff_ne, ne_eq, Prod.mk.injEq]
      rintro ⟨rfl, rfl⟩
      exact same ⟨rfl, rfl⟩
    rw [passed]

namespace ModelConfig

/-- The last conditions that a model declares for a scope count, and only on its table. -/
theorem scope?_defineScopes (model : ModelConfig) (connection : Connection) :
    (model.defineScopes connection).scope? table scope =
      ((if model.table = table then model.scope? scope else none).map (·.map .sql)).or
        (connection.scope? table scope) := by
  unfold defineScopes scope?
  induction model.scopes generalizing connection with
  | nil =>
    split <;> rfl
  | cons declared scopes ih =>
    obtain ⟨name, conditions⟩ := declared
    rw [List.foldl_cons, ih, Connection.scope?_defineScope, List.reverse_cons, List.lookup_append]
    by_cases here : model.table = table
    · rw [if_pos here, if_pos here]
      cases later : scopes.reverse.lookup scope with
      | some conditions => rfl
      | none =>
        by_cases same : name = scope
        · subst same
          rw [if_pos ⟨here, rfl⟩, List.lookup_cons_self]
          rfl
        · have passed : (scope == name) = false := by simpa using Ne.symm same
          rw [if_neg fun both => same both.2, List.lookup_cons, passed]
          rfl
    · rw [if_neg here, if_neg here, if_neg fun both => here both.1]

end ModelConfig

namespace Config

/-- The connection knows of the scopes of a table what the last model declares. -/
theorem scope?_defineScopes (config : Config) (connection : Connection) :
    (config.defineScopes connection).scope? table scope =
      ((config.scope? table scope).map (·.map .sql)).or (connection.scope? table scope) := by
  unfold defineScopes scope?
  induction config.models generalizing connection with
  | nil => rfl
  | cons model models ih =>
    rw [List.foldl_cons, ih, ModelConfig.scope?_defineScopes, List.reverse_cons,
      List.findSome?_append]
    cases models.reverse.findSome? fun model =>
        if model.table = table then model.scope? scope else none with
    | some conditions => rfl
    | none => simp

/-- Where no other model of the table declares a scope, its conditions are those of the model. -/
theorem scope?_eq_of_alone {config : Config} {model : ModelConfig} (member : model ∈ config.models)
    (alone : ∀ other ∈ config.models, other.table = model.table → other.scope? scope ≠ none →
      other = model) : config.scope? model.table scope = model.scope? scope := by
  unfold scope?
  cases found : config.models.reverse.findSome? fun other =>
      if other.table = model.table then other.scope? scope else none with
  | none =>
    rw [List.findSome?_eq_none_iff] at found
    have absent := found model (List.mem_reverse.mpr member)
    rw [if_pos rfl] at absent
    exact absent.symm
  | some conditions =>
    obtain ⟨other, member', declares⟩ := List.exists_of_findSome?_eq_some found
    by_cases here : other.table = model.table
    · rw [if_pos here] at declares
      obtain rfl := alone other (List.mem_reverse.mp member') here (by simp [declares])
      exact declares.symm
    · rw [if_neg here] at declares
      cases declares

end Config

end Statbook
