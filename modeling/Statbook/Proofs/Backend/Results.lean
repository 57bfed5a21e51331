import Mathlib.Data.List.Forall2

/-!
# Results that may be errors

When a step, a sequence of steps and a traversal of a list succeed, and where they fail.
-/

namespace Statbook

variable {ε α β : Type} {f : α → Except ε β} {xs : List α}

/-- Two steps succeed if the first one does and then the second one. -/
theorem bind_eq_ok_iff {first : Except ε α} {y : β} :
    first >>= f = .ok y ↔ ∃ x, first = .ok x ∧ f x = .ok y := by
  cases first <;> simp [bind, Except.bind]

theorem map_eq_ok_iff {g : α → β} {result : Except ε α} {y : β} :
    result.map g = .ok y ↔ ∃ x, result = .ok x ∧ g x = y := by
  cases result <;> simp [Except.map]

/-- What is made of a result changes no error. -/
theorem map_eq_error_iff {g : α → β} {result : Except ε α} {e : ε} :
    result.map g = .error e ↔ result = .error e := by
  cases result <;> simp [Except.map]

theorem mapError_eq_ok_iff {ε' : Type} {g : ε → ε'} {result : Except ε α} {x : α} :
    result.mapError g = .ok x ↔ result = .ok x := by
  cases result <;> simp [Except.mapError]

theorem ok_of_toOption {result : Except ε α} {x : α} (some : result.toOption = some x) :
    result = .ok x := by
  cases result with
  | error e => cases some
  | ok y => exact congrArg Except.ok (Option.some.inj some)

/-- A traversal that succeeds has succeeded everywhere. -/
theorem mapM_eq_ok_iff {ys : List β} :
    xs.mapM f = .ok ys ↔ List.Forall₂ (fun x y => f x = .ok y) xs ys := by
  induction xs generalizing ys with
  | nil => cases ys <;> simp [pure, Except.pure]
  | cons x xs ih =>
    rw [List.mapM_cons]
    cases first : f x with
    | error e => cases ys <;> simp [bind, Except.bind, first]
    | ok y =>
      cases others : xs.mapM f with
      | error e =>
        have none (ys : List β) : ¬List.Forall₂ (fun x y => f x = .ok y) xs ys := by
          rw [← ih, others]
          simp
        cases ys <;> simp [bind, Except.bind, none]
      | ok ys' =>
        cases ys with
        | nil => simp [bind, Except.bind, pure, Except.pure]
        | cons z zs =>
          rw [List.forall₂_cons, ← ih, others, first]
          simp [bind, Except.bind, pure, Except.pure]

/-- A traversal finds all if it finds something for each. -/
theorem mapM_eq_some_iff {f : α → Option β} {ys : List β} :
    xs.mapM f = some ys ↔ List.Forall₂ (fun x y => f x = some y) xs ys := by
  induction xs generalizing ys with
  | nil => cases ys <;> simp
  | cons x xs ih =>
    rw [List.mapM_cons]
    cases first : f x with
    | none => cases ys <;> simp [first]
    | some y =>
      simp only [Option.bind_eq_bind, Option.bind_some, Option.bind_eq_some_iff, Option.pure_def,
        ih, Option.some.injEq]
      cases ys with
      | nil => simp
      | cons z zs => simp [first, and_comm]

/-- Where it does not depend on the state whether a step succeeds, all steps succeed if each does. -/
theorem exists_foldlM_eq_ok_iff {σ : Type} {step : σ → α → Except ε σ} {P : α → Prop}
    (each : ∀ x state, (∃ next, step state x = .ok next) ↔ P x) (state : σ) :
    (∃ last, xs.foldlM step state = .ok last) ↔ ∀ x ∈ xs, P x := by
  induction xs generalizing state with
  | nil => simp [pure, Except.pure]
  | cons x xs ih =>
    simp only [List.foldlM_cons, bind_eq_ok_iff, List.forall_mem_cons]
    constructor
    · rintro ⟨last, next, first, others⟩
      exact ⟨(each x state).mp ⟨next, first⟩, (ih next).mp ⟨last, others⟩⟩
    · rintro ⟨holds, others⟩
      obtain ⟨next, first⟩ := (each x state).mpr holds
      obtain ⟨last, done⟩ := (ih next).mpr others
      exact ⟨last, next, first, done⟩

/-- A traversal that fails has failed at the first element that fails. -/
theorem exists_first_of_mapM_error {e : ε} (failed : xs.mapM f = .error e) :
    ∃ before x after, xs = before ++ x :: after ∧ (∀ y ∈ before, ∃ z, f y = .ok z) ∧
      f x = .error e := by
  induction xs with
  | nil => simp [pure, Except.pure] at failed
  | cons x xs ih =>
    rw [List.mapM_cons] at failed
    cases first : f x with
    | error e' =>
      have same : e' = e := by simpa [first, bind, Except.bind] using failed
      exact ⟨[], x, xs, rfl, by simp, by rw [first, same]⟩
    | ok y =>
      cases others : xs.mapM f with
      | error e' =>
        have same : e' = e := by simpa [first, others, bind, Except.bind] using failed
        obtain ⟨before, x', after, rfl, passed, fails⟩ := ih (by rw [others, same])
        refine ⟨x :: before, x', after, rfl, ?_, fails⟩
        intro y' member
        rcases List.mem_cons.mp member with rfl | member
        · exact ⟨y, first⟩
        · exact passed y' member
      | ok ys => simp [first, others, bind, Except.bind, pure, Except.pure] at failed

/-- What holds wherever a list is split holds of its first element, and of the others with that
element among those before them. -/
theorem forall_split_cons_iff {P : List α → α → Prop} {y : α} {ys : List α} :
    (∀ before x rest, y :: ys = before ++ x :: rest → P before x) ↔
      P [] y ∧ ∀ before x rest, ys = before ++ x :: rest → P (y :: before) x := by
  constructor
  · intro each
    refine ⟨each [] y ys rfl, fun before x rest split => each (y :: before) x rest ?_⟩
    rw [split, List.cons_append]
  · rintro ⟨first, others⟩ before x rest split
    cases before with
    | nil =>
      obtain ⟨rfl, -⟩ := List.cons.inj split
      exact first
    | cons z before =>
      obtain ⟨rfl, tail⟩ := List.cons.inj split
      exact others before x rest tail

theorem exists_split_cons_iff {P : List α → α → Prop} {y : α} {ys : List α} :
    (∃ before x rest, y :: ys = before ++ x :: rest ∧ P before x) ↔
      P [] y ∨ ∃ before x rest, ys = before ++ x :: rest ∧ P (y :: before) x := by
  have none : _ ↔ _ ∧ ∀ before x rest, ys = before ++ x :: rest → ¬P (y :: before) x :=
    forall_split_cons_iff (P := fun before x => ¬P before x)
  simpa only [not_forall, not_not, not_and_or, exists_prop] using not_congr none

/-- A relation between lists may be replaced by one that it implies for their elements. -/
theorem forall₂_of_mem {R S : α → β → Prop} {ys : List β} (related : List.Forall₂ R xs ys)
    (implies : ∀ x ∈ xs, ∀ y, R x y → S x y) : List.Forall₂ S xs ys := by
  induction related with
  | nil => exact .nil
  | cons first _ ih =>
    exact .cons (implies _ List.mem_cons_self _ first)
      (ih fun x member => implies x (List.mem_cons_of_mem _ member))

theorem exists_of_forall₂ {R : α → β → Prop} {ys : List β} (related : List.Forall₂ R xs ys) {x : α}
    (member : x ∈ xs) : ∃ y ∈ ys, R x y := by
  induction related with
  | nil => cases member
  | cons first _ ih =>
    rcases List.mem_cons.mp member with rfl | member
    · exact ⟨_, List.mem_cons_self, first⟩
    · obtain ⟨y, member', holds⟩ := ih member
      exact ⟨y, List.mem_cons_of_mem _ member', holds⟩

/-- Related elements that agree in something agree in it throughout. -/
theorem map_eq_map_of_forall₂ {γ : Type} {R : α → β → Prop} {ys : List β} {g : β → γ} {h : α → γ}
    (related : List.Forall₂ R xs ys) (agree : ∀ x y, R x y → g y = h x) : ys.map g = xs.map h := by
  induction related with
  | nil => rfl
  | cons first _ ih => rw [List.map_cons, List.map_cons, agree _ _ first, ih]

theorem exists_forall₂ {p : α → β → Prop} (each : ∀ x ∈ xs, ∃ y, p x y) :
    ∃ ys, List.Forall₂ p xs ys := by
  induction xs with
  | nil => exact ⟨[], .nil⟩
  | cons x xs ih =>
    obtain ⟨y, first⟩ := each x List.mem_cons_self
    obtain ⟨ys, others⟩ := ih fun x member => each x (List.mem_cons_of_mem _ member)
    exact ⟨y :: ys, .cons first others⟩

theorem exists_forall₂_iff {p : α → β → Prop} :
    (∃ ys, List.Forall₂ p xs ys) ↔ ∀ x ∈ xs, ∃ y, p x y := by
  constructor
  · rintro ⟨ys, related⟩ x member
    obtain ⟨y, -, holds⟩ := exists_of_forall₂ related member
    exact ⟨y, holds⟩
  · exact exists_forall₂

/-- One relation after another, element by element. -/
theorem forall₂_comp_iff {γ : Type} {R : α → β → Prop} {S : β → γ → Prop} {zs : List γ} :
    List.Forall₂ (fun x z => ∃ y, R x y ∧ S y z) xs zs ↔
      ∃ ys, List.Forall₂ R xs ys ∧ List.Forall₂ S ys zs := by
  constructor
  · intro related
    induction related with
    | nil => exact ⟨[], .nil, .nil⟩
    | cons first _ ih =>
      obtain ⟨y, left, right⟩ := first
      obtain ⟨ys, lefts, rights⟩ := ih
      exact ⟨y :: ys, .cons left lefts, .cons right rights⟩
  · rintro ⟨ys, lefts, rights⟩
    induction lefts generalizing zs with
    | nil =>
      cases rights
      exact .nil
    | cons left _ ih =>
      cases rights with
      | cons right rights => exact .cons ⟨_, left, right⟩ (ih rights)

end Statbook
