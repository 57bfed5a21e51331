import Statbook.Backend.Basic

/-!
# What computations on a state keep

A computation keeps a property of the state, whether it succeeds or fails, and ensures a
property of its result. Both are put together from the steps of the computation, and so is that
it does what another one does on part of its state.
-/

namespace Statbook.Fallible

variable {σ α β : Type} {P : σ → Prop}

/-- From a state with `P` the computation ends in such a state, and its result has `Q`. -/
def Ensures (P : σ → Prop) (run : Fallible σ α) (Q : Except StatError α → Prop) : Prop :=
  ∀ state, P state → P (run state).2 ∧ Q (run state).1

theorem bind_apply (run : Fallible σ α) (next : α → Fallible σ β) (state : σ) :
    (run >>= next) state = match run state with
      | (.ok value, state) => next value state
      | (.error error, state) => (.error error, state) := by
  show ExceptT.bind run next state = _
  unfold ExceptT.bind ExceptT.mk
  show StateT.bind run (ExceptT.bindCont next) state = _
  unfold StateT.bind
  simp only [bind]
  rcases run state with ⟨result, state'⟩
  cases result <;> rfl

theorem bind_pure_apply (run : Fallible σ α) (f : α → β) (state : σ) :
    (run >>= fun value => pure (f value)) state = ((run state).1.map f, (run state).2) := by
  rw [bind_apply]
  rcases run state with ⟨result, state'⟩
  cases result <;> rfl

theorem bind_succeeds_iff {run : Fallible σ α} {next : α → Fallible σ β} {state after : σ}
    {value : β} : (run >>= next) state = (.ok value, after) ↔
      ∃ first between, run state = (.ok first, between) ∧
        next first between = (.ok value, after) := by
  rw [bind_apply]
  constructor
  · intro succeeds
    rcases given : run state with ⟨error | first, between⟩
    · rw [given] at succeeds
      cases (Prod.mk.inj succeeds).1
    · rw [given] at succeeds
      exact ⟨first, between, rfl, succeeds⟩
  · rintro ⟨first, between, given, succeeds⟩
    rw [given]
    exact succeeds

/-- Where two steps fail, the first one fails already or only the second one does. -/
theorem bind_fails_iff {run : Fallible σ α} {next : α → Fallible σ β} {state after : σ}
    {error : StatError} : (run >>= next) state = (.error error, after) ↔
      run state = (.error error, after) ∨ ∃ first between, run state = (.ok first, between) ∧
        next first between = (.error error, after) := by
  rw [bind_apply]
  constructor
  · intro fails
    rcases given : run state with ⟨error' | first, between⟩
    · rw [given] at fails
      obtain ⟨same, rfl⟩ := Prod.mk.inj fails
      obtain rfl := Except.error.inj same
      exact .inl rfl
    · rw [given] at fails
      exact .inr ⟨first, between, rfl, fails⟩
  · rintro (given | ⟨first, between, given, fails⟩)
    · rw [given]
    · rw [given]
      exact fails

namespace Ensures

variable {Q : Except StatError α → Prop} {R : Except StatError β → Prop}

theorem pure {value : α} (holds : Q (.ok value)) : Ensures P (Pure.pure value) Q :=
  fun _ kept => ⟨kept, holds⟩

theorem throw {error : StatError} (holds : Q (.error error)) :
    Ensures P (MonadExcept.throw error) Q :=
  fun _ kept => ⟨kept, holds⟩

theorem weaken {run : Fallible σ α} {Q' : Except StatError α → Prop} (ensures : Ensures P run Q)
    (implies : ∀ result, Q result → Q' result) : Ensures P run Q' :=
  fun state kept => (ensures state kept).imp_right (implies _)

/-- A failure of the first step is one of both. -/
theorem bind {run : Fallible σ α} {next : α → Fallible σ β} (first : Ensures P run Q)
    (second : ∀ value, Q (.ok value) → Ensures P (next value) R)
    (fails : ∀ error, Q (.error error) → R (.error error)) : Ensures P (run >>= next) R := by
  intro state kept
  obtain ⟨kept', holds⟩ := first state kept
  rw [bind_apply]
  rcases h : run state with ⟨result, state'⟩
  rw [h] at kept' holds
  cases result with
  | ok value => exact second value holds state' kept'
  | error error => exact ⟨kept', fails error holds⟩

end Ensures

/-- The computation keeps a property of the state. -/
def Keeps (P : σ → Prop) (run : Fallible σ α) : Prop :=
  Ensures P run fun _ => True

namespace Keeps

theorem pure (value : α) : Keeps P (Pure.pure value) :=
  fun _ kept => ⟨kept, trivial⟩

theorem throw (error : StatError) : Keeps (α := α) P (MonadExcept.throw error) :=
  fun _ kept => ⟨kept, trivial⟩

theorem bind {run : Fallible σ α} {next : α → Fallible σ β} (first : Keeps P run)
    (second : ∀ value, Keeps P (next value)) : Keeps P (run >>= next) :=
  Ensures.bind first (fun value _ => second value) fun _ _ => trivial

theorem mapM {run : α → Fallible σ β} (each : ∀ x, Keeps P (run x)) (xs : List α) :
    Keeps P (xs.mapM run) := by
  induction xs with
  | nil => exact pure []
  | cons x xs ih =>
    rw [List.mapM_cons]
    exact bind (each x) fun y => bind ih fun ys => pure (y :: ys)

end Keeps

/-- A computation does what the plain one does on the part of its state that the view shows. -/
def Mirrors {τ : Type} (view : τ → σ) (full : Fallible τ α) (plain : Fallible σ α) : Prop :=
  ∀ state, plain (view state) = ((full state).1, view (full state).2)

namespace Mirrors

variable {τ : Type} {view : τ → σ}

theorem pure (value : α) : Mirrors view (Pure.pure value) (Pure.pure value) :=
  fun _ => rfl

theorem bind {full : Fallible τ α} {plain : Fallible σ α} {next : α → Fallible τ β}
    {next' : α → Fallible σ β} (first : Mirrors view full plain)
    (second : ∀ value, Mirrors view (next value) (next' value)) :
    Mirrors view (full >>= next) (plain >>= next') := by
  intro state
  rw [bind_apply, bind_apply, first state]
  rcases full state with ⟨result, state'⟩
  cases result with
  | ok value => exact second value state'
  | error error => rfl

theorem mapM {full : α → Fallible τ β} {plain : α → Fallible σ β}
    (each : ∀ x, Mirrors view (full x) (plain x)) (xs : List α) :
    Mirrors view (xs.mapM full) (xs.mapM plain) := by
  induction xs with
  | nil => exact pure []
  | cons x xs ih =>
    rw [List.mapM_cons, List.mapM_cons]
    exact bind (each x) fun y => bind ih fun ys => pure (y :: ys)

end Mirrors

end Statbook.Fallible
