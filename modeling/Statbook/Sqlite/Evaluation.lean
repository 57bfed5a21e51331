import Statbook.Sqlite.Affinity
import Statbook.Sqlite.Expression

/-!
# Evaluation

The value of an expression in a row, once its columns are places in the row and its bound
values are cells. Truth has three values: a comparison with nothing is neither true nor false,
and `NOT`, `AND` and `OR` leave it open where the other operand does not decide.
-/

namespace Statbook.Sqlite

/-- A place in a row, and the affinity of the column there. -/
structure Place where
  index : Nat
  affinity : Affinity
  deriving DecidableEq, Repr

/-- An expression that can be evaluated in a row. -/
abbrev Resolved := Expr Place Cell

/-- Whether two conditions both hold. -/
def bothHold : Option Bool → Option Bool → Option Bool
  | some false, _ => some false
  | _, some false => some false
  | some true, some true => some true
  | _, _ => none

/-- Whether one of two conditions holds. -/
def oneHolds : Option Bool → Option Bool → Option Bool
  | some true, _ => some true
  | _, some true => some true
  | some false, some false => some false
  | _, _ => none

namespace Expr

/-- The affinity that an operand brings into a comparison. -/
def affinity? : Resolved → Option Affinity
  | column place => some place.affinity
  | _ => none

/-- Whether a comparison of two cells holds. -/
def comparisonTruth (comparison : Comparison) (affinity : Affinity) (a b : Cell) : Option Bool :=
  if a.isNull || b.isNull then none
  else some (comparison.holds (affinity.compare a b))

/-- The value of an expression in a row. A number that is refused has none; no statement with
one is run. -/
def value (row : List Cell) : Resolved → Cell
  | literal cell => cell
  | number negative n _ => (n.cell? negative).getD .null
  | parameter cell => cell
  | column place => (row[place.index]?).getD .null
  | bare e => value row e
  | minus e => (value row e).negated
  | compare comparison a b =>
    .ofTruth (comparisonTruth comparison (Affinity.forComparison (affinity? a) (affinity? b))
      (value row a) (value row b))
  | isNull e => .ofTruth (some (value row e).isNull)
  | not e => .ofTruth ((value row e).truth?.map (!·))
  | and a b => .ofTruth (bothHold (value row a).truth? (value row b).truth?)
  | or a b => .ofTruth (oneHolds (value row a).truth? (value row b).truth?)

/-- Whether an expression names a place from `width` on. -/
def reaches (width : Nat) : Resolved → Bool
  | literal _ | number .. | parameter _ => false
  | column place => width ≤ place.index
  | bare e | minus e | isNull e | not e => reaches width e
  | compare _ a b | and a b | or a b => reaches width a || reaches width b

/-- Whether a row meets a condition. -/
def holdsIn (row : List Cell) (e : Resolved) : Bool :=
  (value row e).truth? = some true

/-- The expression with its columns and bound values replaced. The first column that cannot be
replaced, read from left to right, is the failure. -/
def resolve {ε : Type} (column : ColumnName → Except ε Resolved) (bound : Nat → Cell) :
    Unresolved → Except ε Resolved
  | literal cell => .ok (literal cell)
  | number negative n bytesOnward => .ok (number negative n bytesOnward)
  | parameter n => .ok (parameter (bound n))
  | .column name => column name
  | bare e => do pure (bare (← resolve column bound e))
  | minus e => do pure (minus (← resolve column bound e))
  | compare comparison a b => do
    let a ← resolve column bound a
    let b ← resolve column bound b
    pure (compare comparison a b)
  | isNull e => do pure (isNull (← resolve column bound e))
  | not e => do pure (not (← resolve column bound e))
  | and a b => do
    let a ← resolve column bound a
    let b ← resolve column bound b
    pure (and a b)
  | or a b => do
    let a ← resolve column bound a
    let b ← resolve column bound b
    pure (or a b)

end Expr

end Statbook.Sqlite
