/-!
# Whole numbers in decimal

Digits of natural numbers, and the reading of signed and unsigned numbers of a bounded
range. A reader takes the whole text: no blanks, no separators, at least one digit.
-/

namespace Statbook.Decimal

/-- A character is one of the ten ASCII digits. -/
def isDigit (c : Char) : Bool :=
  '0' ≤ c && c ≤ '9'

/-- The value of an ASCII digit. -/
def digitValue (c : Char) : Nat :=
  c.toNat - '0'.toNat

/-- The decimal digits of `n`, without leading zeros. -/
def digits (n : Nat) : List Char :=
  Nat.toDigits 10 n

/-- The last `width` decimal digits of `n`, with leading zeros. -/
def fixedDigits (width n : Nat) : List Char :=
  match width with
  | 0 => []
  | width + 1 => fixedDigits width (n / 10) ++ [Nat.digitChar (n % 10)]

/-- The decimal digits of `n`, with leading zeros up to `width` digits. -/
def paddedDigits (width n : Nat) : List Char :=
  let ds := digits n
  List.replicate (width - ds.length) '0' ++ ds

/-- The number that a list of digits writes, its leading part worth `acc`. -/
def foldDigits (acc : Nat) (ds : List Char) : Nat :=
  ds.foldl (fun n c => 10 * n + digitValue c) acc

/-- The number that a nonempty list of digits writes. -/
def readNat? (cs : List Char) : Option Nat :=
  if cs.isEmpty || !cs.all isDigit then none else some (foldDigits 0 cs)

/-- The decimal text of an integer. -/
def ofInt : Int → List Char
  | .ofNat n => digits n
  | .negSucc n => '-' :: digits (n + 1)

/-- The integer that an optional sign and a nonempty list of digits write. -/
def readInt? : List Char → Option Int
  | '-' :: cs => (readNat? cs).map fun n => -(n : Int)
  | '+' :: cs => (readNat? cs).map fun n => (n : Int)
  | cs => (readNat? cs).map fun n => (n : Int)

/-- The integer, if it fits into 64 bits with a sign. -/
def int64? (n : Int) : Option Int64 :=
  if Int64.minValue.toInt ≤ n ∧ n ≤ Int64.maxValue.toInt then some (Int64.ofInt n) else none

/-- The signed 64-bit integer that a text writes. -/
def readInt64? (cs : List Char) : Option Int64 :=
  (readInt? cs).bind int64?

/-- The number below `bound` that an optional plus sign and digits write. -/
def readBelow? (bound : Nat) (cs : List Char) : Option Nat :=
  let digits := match cs with
    | '+' :: rest => rest
    | _ => cs
  (readNat? digits).filter (· < bound)

/-- The decimal text of a signed 64-bit integer. -/
def ofInt64 (n : Int64) : String :=
  String.ofList (ofInt n.toInt)

end Statbook.Decimal
