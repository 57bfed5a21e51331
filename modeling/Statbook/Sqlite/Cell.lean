import Statbook.Sql.Value
import Statbook.Stat.Value
import Statbook.Sqlite.Number

/-!
# Cells

What a table of SQLite holds in one column of one row, and the order of such cells: nothing
first, then numbers by their value, then texts, then blobs, both by their bytes.
-/

namespace Statbook.Sqlite

open Decimal

/-- What a table holds in one column of one row. -/
inductive Cell where
  | null
  | integer (value : Int64)
  | real (value : Float)
  | text (value : String)
  | blob (bytes : List UInt8)
  deriving DecidableEq

namespace Cell

instance : Inhabited Cell := ⟨null⟩

/-- The cell that a float makes; what is not a number makes none. -/
def ofFloat (x : Float) : Cell :=
  if x.isNaN then null else real x

/-- The cell of a value that is bound to a statement. -/
def ofSqlValue : SqlValue → Cell
  | .null => null
  | .integer value => integer value
  | .real value => ofFloat value
  | .text value => text value

/-- The value that is fetched for a cell; blobs are not. -/
def toSqlValue : Cell → SqlValue
  | null => .null
  | integer value => .integer value
  | real value => .real value
  | text value => .text value
  | blob _ => .null

/-- Whether a cell holds nothing. -/
def isNull : Cell → Bool
  | null => true
  | _ => false

/-- The float of a cell in arithmetic; a blob counts as the text of its bytes. -/
def toReal : Cell → Float
  | null => 0.0
  | integer value => StatValue.floatOfInt value
  | real value => value
  | text value => frontReal value.toList
  | blob bytes => frontReal (bytes.map fun byte => Char.ofNat byte.toNat)

/-- The integer or float of a text in arithmetic: the number at its front. -/
def frontNumber (cs : List Char) : Cell :=
  match readNumeral? cs with
  | some (n, _) =>
    match n.plain, int64? n.int with
    | true, some value => integer value
    | _, _ => real n.real
  | none => integer 0

/-- Zero less a cell. The opposite of the least integer is a float. -/
def negated (cell : Cell) : Cell :=
  let number := match cell with
    | text value => frontNumber value.toList
    | blob bytes => frontNumber (bytes.map fun byte => Char.ofNat byte.toNat)
    | cell => cell
  match number with
  | integer n =>
    if n = Int64.minValue then real (0.0 - StatValue.floatOfInt n) else integer (-n)
  | real x => ofFloat (0.0 - x)
  | cell => cell

/-- The truth of a cell as a condition; nothing is neither true nor false. -/
def truth? : Cell → Option Bool
  | null => none
  | integer value => some (value ≠ 0)
  | cell => some (cell.toReal != 0.0)

/-- A truth value as a cell. -/
def ofTruth : Option Bool → Cell
  | none => null
  | some value => integer (if value then 1 else 0)

/-- A number, its size in units of a power of two, or one of the two infinities. -/
inductive Magnitude where
  | below
  | finite (units : Int) (power : Int)
  | above

/-- The size of an integer. -/
def Magnitude.ofInt (n : Int64) : Magnitude :=
  .finite n.toInt 0

/-- The size of a float. -/
def Magnitude.ofFloat (x : Float) : Magnitude :=
  match Parts.ofFloat x with
  | .notANumber => .below
  | .infinite negative => if negative then .below else .above
  | .finite negative mantissa exponent =>
    .finite (if negative then -(mantissa : Int) else mantissa) exponent

/-- The order of two sizes. -/
def Magnitude.compare : Magnitude → Magnitude → Ordering
  | .below, .below => .eq
  | .below, _ => .lt
  | _, .below => .gt
  | .above, .above => .eq
  | .above, _ => .gt
  | _, .above => .lt
  | .finite m p, .finite n q =>
    let base := min p q
    Ord.compare (m * Nat.pow 2 (p - base).toNat) (n * Nat.pow 2 (q - base).toNat)

/-- The order of bytes, a shorter sequence before its continuations. -/
def compareBytes : List UInt8 → List UInt8 → Ordering
  | [], [] => .eq
  | [], _ => .lt
  | _, [] => .gt
  | a :: as, b :: bs => (Ord.compare a b).then (compareBytes as bs)

/-- The size of a number; no other cell has one. -/
def magnitude? : Cell → Option Magnitude
  | integer value => some (.ofInt value)
  | real value => some (.ofFloat value)
  | _ => none

/-- The place of a cell's kind in the order of cells. -/
def rank : Cell → Nat
  | null => 0
  | integer _ | real _ => 1
  | text _ => 2
  | blob _ => 3

/-- The order of cells. -/
def compare (a b : Cell) : Ordering :=
  match a, b with
  | text s, text t => Ord.compare s t
  | blob s, blob t => compareBytes s t
  | _, _ =>
    match a.magnitude?, b.magnitude? with
    | some m, some n => m.compare n
    | _, _ => Ord.compare a.rank b.rank

end Cell

end Statbook.Sqlite
