import Mathlib.Data.List.Forall2
import Statbook.Backend.Scripted
import Statbook.Sqlite.Connection

/-!
# Scopes

A backend resolves named scopes into constraints. The constraints of several scopes stand in
the order of the scopes, and the first scope that is refused ends the matter.
-/

namespace Statbook

/-- A backend resolves the scopes of a table into constraints: it adds the constraints of a
scope that it knows at the end of a query, and refuses a scope that it does not know. -/
structure Backend.Resolves {σ : Type} (backend : Backend σ)
    (meaning : σ → String → String → Except StatError (List Constraint)) : Prop where
  added : ∀ {state query scope query'}, backend.applyScope state query scope = .ok query' →
    ∃ constraints, meaning state query.table scope = .ok constraints ∧
      query'.table = query.table ∧ query'.joins = query.joins ∧
      query'.constraints = query.constraints ++ constraints
  refused : ∀ {state query scope error}, backend.applyScope state query scope = .error error →
    meaning state query.table scope = .error error

/-- Puts scopes on a query in order: the whole table is no scope, and the first scope that is
refused ends the matter. -/
inductive Backend.Chained {σ : Type} (backend : Backend σ) (state : σ) :
    List String → Query → Except StatError Query → Prop
  | nil {query : Query} : Chained backend state [] query (.ok query)
  | whole {scopes : List String} {query : Query} {outcome : Except StatError Query} :
      Chained backend state scopes query outcome →
      Chained backend state (wholeTableScope :: scopes) query outcome
  | refused {scope : String} {scopes : List String} {query : Query} {error : StatError} :
      scope ≠ wholeTableScope → backend.applyScope state query scope = .error error →
      Chained backend state (scope :: scopes) query (.error error)
  | put {scope : String} {scopes : List String} {query query' : Query}
      {outcome : Except StatError Query} :
      scope ≠ wholeTableScope → backend.applyScope state query scope = .ok query' →
      Chained backend state scopes query' outcome →
      Chained backend state (scope :: scopes) query outcome

namespace Backend

variable {σ : Type} {backend : Backend σ} {state : σ}

theorem chained_foldlM (scopes : List String) (query : Query) :
    backend.Chained state scopes query
      ((scopes.filter (· ≠ wholeTableScope)).foldlM (backend.applyScope state) query) := by
  induction scopes generalizing query with
  | nil => exact .nil
  | cons scope scopes ih =>
    by_cases whole : scope = wholeTableScope
    · subst whole
      rw [List.filter_cons_of_neg (by simp)]
      exact .whole (ih query)
    · rw [List.filter_cons_of_pos (by simpa using whole), List.foldlM_cons]
      cases applied : backend.applyScope state query scope with
      | error error => exact .refused whole applied
      | ok query' => exact .put whole applied (ih query')

theorem Chained.eq_foldlM {scopes : List String} {query : Query}
    {outcome : Except StatError Query} (chained : backend.Chained state scopes query outcome) :
    (scopes.filter (· ≠ wholeTableScope)).foldlM (backend.applyScope state) query = outcome := by
  induction chained with
  | nil => rfl
  | whole _ ih =>
    rw [List.filter_cons_of_neg (by simp)]
    exact ih
  | refused whole applied =>
    rw [List.filter_cons_of_pos (by simpa using whole), List.foldlM_cons, applied]
    rfl
  | put whole applied _ ih =>
    rw [List.filter_cons_of_pos (by simpa using whole), List.foldlM_cons, applied]
    exact ih

/-- The constraints of the scopes stand in the order of the scopes. -/
theorem Chained.resolved {meaning : σ → String → String → Except StatError (List Constraint)}
    (resolves : backend.Resolves meaning) {scopes : List String} {query : Query}
    {outcome : Except StatError Query} (chained : backend.Chained state scopes query outcome)
    {narrowed : Query} (succeeded : outcome = .ok narrowed) :
    ∃ parts, List.Forall₂ (fun scope part => meaning state query.table scope = .ok part)
        (scopes.filter (· ≠ wholeTableScope)) parts ∧
      narrowed.table = query.table ∧ narrowed.joins = query.joins ∧
      narrowed.constraints = query.constraints ++ parts.flatten := by
  induction chained with
  | nil =>
    obtain rfl := Except.ok.inj succeeded
    exact ⟨[], .nil, rfl, rfl, by simp⟩
  | whole _ ih =>
    rw [List.filter_cons_of_neg (by simp)]
    exact ih succeeded
  | refused _ _ => cases succeeded
  | put whole applied _ ih =>
    obtain ⟨part, means, table, joins, constraints⟩ := resolves.added applied
    obtain ⟨parts, all, table', joins', constraints'⟩ := ih succeeded
    rw [table] at all table'
    refine ⟨part :: parts, ?_, table', joins'.trans joins, ?_⟩
    · rw [List.filter_cons_of_pos (by simpa using whole)]
      exact .cons means all
    · rw [constraints', constraints, List.flatten_cons, List.append_assoc]

/-- What a scope of a script means, for every table. -/
def scriptMeaning (script : Script) (table scope : String) : Except StatError (List Constraint) :=
  match script.scopes.lookup scope with
  | some constraints => .ok constraints
  | none => .error (.unknownScope table scope)

/-- A scripted backend resolves the scopes of its script. -/
theorem resolves_script : Script.backend.Resolves scriptMeaning where
  added := by
    intro script query scope query' applied
    have applied : script.applyScope query scope = .ok query' := applied
    unfold Script.applyScope at applied
    unfold scriptMeaning
    cases found : script.scopes.lookup scope with
    | some constraints =>
      rw [found] at applied
      obtain rfl := Except.ok.inj applied
      exact ⟨constraints, rfl, rfl, rfl, rfl⟩
    | none => simp [found] at applied
  refused := by
    intro script query scope error applied
    have applied : script.applyScope query scope = .error error := applied
    unfold Script.applyScope at applied
    unfold scriptMeaning
    cases found : script.scopes.lookup scope with
    | some constraints => simp [found] at applied
    | none =>
      rw [found] at applied
      obtain rfl := Except.error.inj applied
      rfl

/-- What a scope of a table means to a SQLite connection; the whole table is no constraint. -/
def sqliteMeaning (connection : Sqlite.Connection) (table scope : String) :
    Except StatError (List Constraint) :=
  if scope = wholeTableScope then .ok []
  else match connection.scopes.lookup (table, scope) with
    | some constraints => .ok constraints
    | none => .error (.unknownScope table scope)

/-- A SQLite connection resolves the scopes that were defined for a table. -/
theorem resolves_sqlite : Sqlite.Connection.backend.Resolves sqliteMeaning where
  added := by
    intro connection query scope query' applied
    have applied : connection.applyScope query scope = .ok query' := applied
    unfold Sqlite.Connection.applyScope at applied
    unfold sqliteMeaning
    by_cases whole : scope = wholeTableScope
    · rw [if_pos whole] at applied ⊢
      obtain rfl := Except.ok.inj applied
      exact ⟨[], rfl, rfl, rfl, (List.append_nil _).symm⟩
    · rw [if_neg whole] at applied ⊢
      cases found : connection.scopes.lookup (query.table, scope) with
      | some constraints =>
        rw [found] at applied
        obtain rfl := Except.ok.inj applied
        exact ⟨constraints, rfl, rfl, rfl, rfl⟩
      | none => simp [found] at applied
  refused := by
    intro connection query scope error applied
    have applied : connection.applyScope query scope = .error error := applied
    unfold Sqlite.Connection.applyScope at applied
    unfold sqliteMeaning
    by_cases whole : scope = wholeTableScope
    · simp [if_pos whole] at applied
    · rw [if_neg whole] at applied ⊢
      cases found : connection.scopes.lookup (query.table, scope) with
      | some constraints => simp [found] at applied
      | none =>
        rw [found] at applied
        obtain rfl := Except.error.inj applied
        rfl

end Backend

end Statbook
