import Statbook.Text.Pieces
import Statbook.Sqlite.Cell
import Statbook.Sqlite.RealText

/-!
# Affinity

The declared type of a column decides which kind of cell it prefers. What is stored in the
column is turned into that kind where nothing is lost, and so is what the column is compared
with.
-/

namespace Statbook.Sqlite

/-- The kind of cell that a column prefers. -/
inductive Affinity where
  | integer
  | real
  | numeric
  | text
  /-- Cells stay as they are. -/
  | none
  deriving DecidableEq, Repr

namespace Affinity

/-- Whether `part` occurs in `s`. -/
def occursIn (part : List Char) : (s : List Char) → Bool
  | [] => part.isEmpty
  | c :: s => (Text.afterStart? part (c :: s)).isSome || occursIn part s

/-- The affinity of a declared type, by the words that occur in it. -/
def ofDeclared (declared : String) : Affinity :=
  let s := declared.toList.map Char.toUpper
  let has (word : String) := occursIn word.toList s
  if has "INT" then integer
  else if has "CHAR" || has "CLOB" || has "TEXT" then text
  else if has "BLOB" || s.isEmpty then none
  else if has "REAL" || has "FLOA" || has "DOUB" then real
  else numeric

/-- Whether the affinity is for numbers. -/
def isNumeric : Affinity → Bool
  | integer | real | numeric => true
  | text | none => false

/-- Integers from `-exactBound` to below `exactBound` are read from any text; a larger one is
read as a float if a NUL follows it. -/
def exactBound : Int := 2251799813685248

/-- The integer that a numeral of a text is. -/
def wholeNumeral? (s : String) (n : Numeral) : Option Int64 :=
  let isExact := -exactBound ≤ n.int && n.int < exactBound
  if n.plain && (isExact || !s.toList.contains nul) then Decimal.int64? n.int
  else Option.none

/-- The number that a text is; other cells and texts stay as they are. -/
def toNumber : Cell → Cell
  | .text s =>
    match numeral? s.toList with
    | Option.none => .text s
    | some n =>
      match wholeNumeral? s n with
      | some value => .integer value
      | Option.none => .real n.real
  | cell => cell

/-- The integer that a float is; other cells and floats stay as they are. -/
def toWhole : Cell → Cell
  | .real x => match wholeReal? x with
    | some value => .integer value
    | Option.none => .real x
  | cell => cell

/-- The text of a number; other cells stay as they are. -/
def toText : Cell → Cell
  | .integer n => .text (Decimal.ofInt64 n)
  | .real x => .text (realText x)
  | cell => cell

/-- The float of an integer; other cells stay as they are. -/
def toReal : Cell → Cell
  | .integer n => .real (StatValue.floatOfInt n)
  | cell => cell

/-- The cell that is stored in a column for a cell. -/
def store (affinity : Affinity) (cell : Cell) : Cell :=
  match affinity with
  | integer | numeric => toWhole (toNumber cell)
  | real => toReal (toWhole (toNumber cell))
  | text => toText cell
  | none => cell

/-- The affinity under which two operands are compared; `Option.none` stands for an operand
that is no column. A number among two columns, or the one column there is, decides. -/
def forComparison : Option Affinity → Option Affinity → Affinity
  | some a, some b => if a.isNumeric || b.isNumeric then numeric else none
  | some a, Option.none => a
  | Option.none, some b => b
  | Option.none, Option.none => none

/-- Whether a cell is a text. -/
def isText : Cell → Bool
  | .text _ => true
  | _ => false

/-- The order of two cells compared under an affinity. -/
def compare (affinity : Affinity) (a b : Cell) : Ordering :=
  if affinity.isNumeric then (toNumber a).compare (toNumber b)
  else if affinity = text && (isText a || isText b) then (toText a).compare (toText b)
  else a.compare b

end Affinity

end Statbook.Sqlite
