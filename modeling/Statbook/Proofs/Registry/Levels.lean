import Statbook.Proofs.Backend.Fallible

/-!
# Results by nesting depth

The result of an evaluation depends on how deep calculations may be nested only as long as
that depth does not suffice. What a cache holds may have been worked out with more levels to
spare than the evaluation that finds it has.
-/

namespace Statbook

open Fallible

variable {σ α β : Type}

/-- The result is not that calculations are nested too deeply. -/
def Settled (result : Except StatError α) : Prop :=
  ∀ name, result ≠ .error (.derivationDepth name)

theorem settled_ok (value : α) : Settled (.ok value : Except StatError α) :=
  fun _ same => by cases same

theorem settled_of_bind {result : Except StatError α} {next : α → Except StatError β}
    (settled : Settled (result.bind next)) : Settled result := by
  intro name deep
  subst deep
  exact settled name rfl

/-- The second result is the first one, unless the first one is that the depth does not
suffice. -/
def Extends (first second : Except StatError α) : Prop :=
  Settled first → second = first

namespace Extends

theorem refl (result : Except StatError α) : Extends result result :=
  fun _ => rfl

theorem bind {first second : Except StatError α} {next next' : α → Except StatError β}
    (results : Extends first second) (nexts : ∀ value, Extends (next value) (next' value)) :
    Extends (first.bind next) (second.bind next') := by
  intro settled
  rw [results (settled_of_bind settled)]
  cases first with
  | error error => rfl
  | ok value => exact nexts value settled

theorem mapM {run run' : α → Except StatError β} (each : ∀ x, Extends (run x) (run' x))
    (xs : List α) : Extends (xs.mapM run) (xs.mapM run') := by
  induction xs with
  | nil => exact refl _
  | cons x xs ih =>
    rw [List.mapM_cons, List.mapM_cons]
    exact bind (each x) fun y => bind ih fun ys => refl _

end Extends

/-- With more levels nothing but a lack of levels changes. -/
def Rising (results : Nat → Except StatError α) : Prop :=
  ∀ levels more, levels ≤ more → Extends (results levels) (results more)

theorem rising_of_step {results : Nat → Except StatError α}
    (step : ∀ levels, Extends (results levels) (results (levels + 1))) : Rising results := by
  intro levels more le
  induction le with
  | refl => exact .refl _
  | step _ ih =>
    intro settled
    have same := ih settled
    rw [step _ (same ▸ settled), same]

namespace Rising

theorem const (result : Except StatError α) : Rising fun _ => result :=
  fun _ _ _ => .refl _

theorem bind {results : Nat → Except StatError α} {next : α → Nat → Except StatError β}
    (rising : Rising results) (each : ∀ value, Rising (next value)) :
    Rising fun levels => (results levels).bind fun value => next value levels :=
  fun levels more le => (rising levels more le).bind fun value => each value levels more le

theorem mapM {results : α → Nat → Except StatError β} (each : ∀ x, Rising (results x))
    (xs : List α) : Rising fun levels => xs.mapM fun x => results x levels :=
  fun levels more le => .mapM (fun x => each x levels more le) xs

/-- Two numbers of levels that both suffice give the same result. -/
theorem unique {results : Nat → Except StatError α} (rising : Rising results)
    {levels more : Nat} (settled : Settled (results levels)) (settled' : Settled (results more)) :
    results levels = results more := by
  rcases Nat.le_total levels more with le | le
  · exact (rising levels more le settled).symm
  · exact rising more levels le settled'

end Rising

/-- A result goes along with the results by depth: it is the one at `levels` where that many
levels suffice, and a value is the one of some number of levels. -/
def Tracks (results : Nat → Except StatError α) (levels : Nat) (result : Except StatError α) :
    Prop :=
  (Settled (results levels) → result = results levels) ∧
    ∀ value, result = .ok value → ∃ enough, results enough = .ok value

namespace Tracks

variable {results : Nat → Except StatError α} {levels : Nat}

theorem self (results : Nat → Except StatError α) (levels : Nat) :
    Tracks results levels (results levels) :=
  ⟨fun _ => rfl, fun _ same => ⟨levels, same⟩⟩

/-- A value that some number of levels gives may stand for any number of levels. -/
theorem of_reached (rising : Rising results) {enough : Nat} {value : α}
    (reached : results enough = .ok value) : Tracks results levels (.ok value) := by
  refine ⟨fun settled => ?_, fun value' same => ⟨enough, reached.trans same⟩⟩
  rw [← reached]
  exact rising.unique (reached ▸ settled_ok value) settled

/-- One more level is one more level to spare. -/
theorem succ {result : Except StatError α}
    (tracks : Tracks (fun levels => results (levels + 1)) levels result) :
    Tracks results (levels + 1) result :=
  ⟨tracks.1, fun value same => (tracks.2 value same).imp' (· + 1) fun _ reached => reached⟩

/-- What is made of a value goes along with what is made of the values by depth. -/
theorem mapped {result : Except StatError α} (tracks : Tracks results levels result) (f : α → β) :
    Tracks (fun levels => (results levels).bind fun value => .ok (f value)) levels
      (result.bind fun value => .ok (f value)) := by
  refine ⟨fun settled => ?_, fun value same => ?_⟩
  · rw [tracks.1 (settled_of_bind settled)]
  · cases result with
    | error error => cases same
    | ok value' =>
      obtain ⟨enough, reached⟩ := tracks.2 value' rfl
      refine ⟨enough, ?_⟩
      simp only [reached]
      exact same

end Tracks

namespace Fallible.Ensures

variable {P : σ → Prop} {levels : Nat}

theorem pureTracks (value : α) (levels : Nat) :
    Ensures P (Pure.pure value) (Tracks (fun _ => .ok value) levels) :=
  .pure (.self (fun _ => .ok value) levels)

/-- A computation that goes on with a value goes along with the results that do. -/
theorem bindTracks {results : Nat → Except StatError α} {nexts : α → Nat → Except StatError β}
    {run : Fallible σ α} {next : α → Fallible σ β} (rising : Rising results)
    (risings : ∀ value, Rising (nexts value)) (first : Ensures P run (Tracks results levels))
    (second : ∀ value, Ensures P (next value) (Tracks (nexts value) levels)) :
    Ensures P (run >>= next)
      (Tracks (fun levels => (results levels).bind fun value => nexts value levels) levels) := by
  intro state kept
  obtain ⟨kept', exact', reached⟩ := first state kept
  rw [bind_apply]
  rcases h : run state with ⟨result, state'⟩
  rw [h] at kept' exact' reached
  cases result with
  | error error =>
    refine ⟨kept', fun settled => ?_, fun value same => by cases same⟩
    simp only [← exact' (settled_of_bind settled)]
    rfl
  | ok value =>
    obtain ⟨kept'', exact'', reached'⟩ := second value state' kept'
    refine ⟨kept'', fun settled => ?_, fun value' same => ?_⟩
    · have here := exact' (settled_of_bind settled)
      simp only [← here] at settled ⊢
      exact exact'' settled
    · -- The levels that suffice for either part suffice for both when there are as many as either.
      obtain ⟨enough, first⟩ := reached value rfl
      obtain ⟨enough', second⟩ := reached' value' same
      refine ⟨max enough enough', ?_⟩
      have first' := rising enough _ (Nat.le_max_left enough enough') (first ▸ settled_ok value)
      have second' := risings value enough' _ (Nat.le_max_right enough enough')
        (second ▸ settled_ok value')
      simp only [first', first]
      exact second'.trans second

theorem mapMTracks {results : α → Nat → Except StatError β} {run : α → Fallible σ β}
    (rising : ∀ x, Rising (results x)) (each : ∀ x, Ensures P (run x) (Tracks (results x) levels))
    (xs : List α) :
    Ensures P (xs.mapM run) (Tracks (fun levels => xs.mapM fun x => results x levels) levels) := by
  induction xs with
  | nil => exact pureTracks [] levels
  | cons x xs ih =>
    simp only [List.mapM_cons]
    refine bindTracks (rising x) (fun y => ?_) (each x) fun y => ?_
    · exact (Rising.mapM rising xs).bind fun ys => .const _
    · exact bindTracks (Rising.mapM rising xs) (fun ys => .const _) ih fun ys =>
        pureTracks (y :: ys) levels

end Fallible.Ensures

end Statbook
