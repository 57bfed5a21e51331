import Statbook.Stat.Operation
import Statbook.Sqlite.Fault
import Statbook.Sqlite.Affinity

/-!
# Aggregates

One cell for a list of cells; what is null counts for nothing. A sum of integers is exact and
has to fit into 64 bits. Once a float takes part, the sum is a float, and what rounding loses
on the way is summed beside it and added at the end.
-/

namespace Statbook.Sqlite

/-- A sum of floats, and the sum of what rounding has lost. -/
structure CarriedSum where
  sum : Float
  lost : Float

namespace CarriedSum

/-- Integers from this size on are split before they become floats. -/
def splitSize : Int := 4503599627370496

/-- The part of a split integer that is added on its own is below this. -/
def splitUnit : Int := 16384

/-- The sum with a float added. -/
def add (s : CarriedSum) (x : Float) : CarriedSum :=
  let t := s.sum + x
  ⟨t, s.lost + if x.abs < s.sum.abs then (s.sum - t) + x else (x - t) + s.sum⟩

/-- An integer as a large part and a small one. -/
def split (n : Int64) : Int × Int :=
  let small := n.toInt.tmod splitUnit
  (n.toInt - small, small)

/-- Whether an integer has to be split. -/
def isLarge (n : Int64) : Bool :=
  n.toInt ≤ -splitSize || splitSize ≤ n.toInt

/-- The sum that starts with an integer. -/
def ofInt (n : Int64) : CarriedSum :=
  if isLarge n then ⟨Float.ofInt (split n).1, Float.ofInt (split n).2⟩
  else ⟨Float.ofInt n.toInt, 0.0⟩

/-- The sum with an integer added. -/
def addInt (s : CarriedSum) (n : Int64) : CarriedSum :=
  if isLarge n then (s.add (Float.ofInt (split n).1)).add (Float.ofInt (split n).2)
  else s.add (Float.ofInt n.toInt)

/-- The sum with what was lost. -/
def total (s : CarriedSum) : Float :=
  if s.lost.isFinite then s.sum + s.lost else s.sum

end CarriedSum

/-- A sum on its way. -/
inductive Sum where
  /-- Only integers so far. -/
  | exact (sum : Int64)
  /-- Only integers since the exact sum left the 64-bit range. -/
  | overflowed (sum : CarriedSum)
  | float (sum : CarriedSum)

namespace Sum

/-- The sum of nothing. -/
def zero : Sum := exact 0

/-- The sum with an integer added. -/
def addInt (s : Sum) (n : Int64) : Sum :=
  match s with
  | exact sum =>
    match Decimal.int64? (sum.toInt + n.toInt) with
    | some sum => exact sum
    | none => overflowed ((CarriedSum.ofInt sum).addInt n)
  | overflowed sum => overflowed (sum.addInt n)
  | float sum => float (sum.addInt n)

/-- The sum with a float added. -/
def addFloat (s : Sum) (x : Float) : Sum :=
  match s with
  | exact sum => float ((CarriedSum.ofInt sum).add x)
  | overflowed sum => float (sum.add x)
  | float sum => float (sum.add x)

/-- The sum with a cell added; a text counts as the number that it is or starts with. -/
def add (s : Sum) (cell : Cell) : Sum :=
  match Affinity.toNumber cell with
  | .integer n => s.addInt n
  | cell => s.addFloat cell.toReal

/-- The sum of cells. -/
def ofCells (cells : List Cell) : Sum :=
  cells.foldl add zero

/-- The sum as a cell, unless it has left its range. -/
def cell? : Sum → Option Cell
  | exact sum => some (.integer sum)
  | overflowed _ => none
  | float sum => some (.ofFloat sum.total)

/-- The sum as a float. -/
def toFloat : Sum → Float
  | exact sum => Float.ofInt sum.toInt
  | overflowed sum => sum.total
  | float sum => sum.total

end Sum

namespace Aggregate

/-- The first of the cells that no other one comes before in an order. -/
def extreme (comesBefore : Cell → Cell → Bool) : List Cell → Cell
  | [] => .null
  | cell :: cells =>
    cells.foldl (fun best cell => if comesBefore cell best then cell else best) cell

/-- The aggregate of cells. -/
def ofCells (operation : Operation) (cells : List Cell) : Except Fault Cell :=
  let held := cells.filter fun cell => !cell.isNull
  match operation with
  | .count => .ok (.integer (Int64.ofNat held.length))
  | .sum =>
    if held.isEmpty then .ok .null
    else match (Sum.ofCells held).cell? with
      | some cell => .ok cell
      | none => .error (.result Fault.generalCode "integer overflow")
  | .average =>
    if held.isEmpty then .ok .null
    else .ok (.ofFloat ((Sum.ofCells held).toFloat / Float.ofNat held.length))
  | .minimum => .ok (extreme (fun a b => a.compare b = .lt) held)
  | .maximum => .ok (extreme (fun a b => a.compare b = .gt) held)

end Aggregate

end Statbook.Sqlite
