import Statbook.Text.Hexadecimal
import Statbook.Sqlite.Cell

/-!
# Numbers in statements

A number is written in decimal, with a point and a power of ten if need be, or as an integer
in hexadecimal. Its sign is an operator in front of it, but the sign decides which integers
there are: the least one has no positive counterpart. Separators between digits count for
nothing.
-/

namespace Statbook.Sqlite

open Decimal

/-- A number as a statement writes it, without a sign. -/
inductive NumberLiteral where
  | decimal (numeral : Numeral)
  /-- The letter of the mark, which is in either case, and the digits. -/
  | hexadecimal (mark : Char) (digits : List Char)
  deriving DecidableEq, Repr

namespace NumberLiteral

/-- The cell of a decimal; an integer that does not fit into 64 bits is a float. -/
def decimalCell (n : Numeral) : Cell :=
  match n.plain, int64? n.int with
  | true, some value => .integer value
  | _, _ => .real n.real

/-- The cell of a hexadecimal number: 64 bits with a sign. More bits are refused, and so is the
opposite of the least integer. -/
def hexadecimalCell? (negative : Bool) (ds : List Char) : Option Cell :=
  let magnitude := Text.foldHex 0 ds
  let value := Int64.ofNat magnitude
  if UInt64.size ≤ magnitude then none
  else if !negative then some (.integer value)
  else if value = Int64.minValue then none
  else some (.integer (-value))

/-- The cell of a number with a sign, unless it is refused. -/
def cell? (negative : Bool) : NumberLiteral → Option Cell
  | decimal n => some (decimalCell { n with negative := negative })
  | hexadecimal _ ds => hexadecimalCell? negative ds

/-- A number with a sign as it is told about when it is refused. -/
def refused? (negative : Bool) : NumberLiteral → Option String
  | decimal _ => none
  | hexadecimal mark ds =>
    match hexadecimalCell? negative ds with
    | some _ => none
    | none => some (String.ofList ((if negative then ['-'] else []) ++ '0' :: mark :: ds))

/-- The character that may stand between digits. -/
def separator : Char := '_'

/-- The leading characters that are digits of a kind or separators, and what follows them. -/
def spanGrouped (isOfKind : Char → Bool) (cs : List Char) : List Char × List Char :=
  let belongs (c : Char) := isOfKind c || c = separator
  (cs.takeWhile belongs, cs.dropWhile belongs)

/-- The digits without the separators. -/
def ungroup (ds : List Char) : List Char :=
  ds.filter (· ≠ separator)

/-- The power of ten after its mark; a mark without a digit is none. -/
def readGroupedPower : List Char → Option Int × List Char
  | [] => (none, [])
  | c :: cs =>
    let (negative, afterSign) := splitSign cs
    if (c = 'e' ∨ c = 'E') ∧ afterSign.head?.any isDigit then
      let (ds, rest) := spanGrouped isDigit afterSign
      let magnitude : Int := foldDigits 0 (ungroup ds)
      (some (if negative then -magnitude else magnitude), rest)
    else (none, c :: cs)

/-- The letter of the mark of a hexadecimal number and the digits after it, if that is first. -/
def afterHexMark? : List Char → Option (Char × List Char)
  | '0' :: mark :: c :: cs =>
    if (mark = 'x' ∨ mark = 'X') ∧ Text.isHexDigit c then some (mark, c :: cs) else none
  | _ => none

/-- The number at the front of a text that starts with a digit, or with a point and a digit. -/
def read (cs : List Char) : NumberLiteral × List Char :=
  match afterHexMark? cs with
  | some (mark, cs) =>
    let (ds, rest) := spanGrouped Text.isHexDigit cs
    (hexadecimal mark (ungroup ds), rest)
  | none =>
    let (whole, cs) := spanGrouped isDigit cs
    let (fraction, cs, pointed) := match cs with
      | '.' :: rest =>
        let (fraction, rest) := spanGrouped isDigit rest
        (fraction, rest, true)
      | _ => ([], cs, false)
    let (power, cs) := readGroupedPower cs
    let written := ⟨ungroup whole, ungroup fraction, power.getD 0⟩
    (decimal ⟨false, written, !pointed && power.isNone⟩, cs)

/-- What is left to tell about a number as it was written, if a separator in `cs`, the rest of
it, does not stand between two digits: the number without the separators that were passed,
over what was written before. The last such separator decides. -/
def misgroupedFrom (isOfKind : Char → Bool) (written : List Char) :
    (previous : Char) → (kept cs : List Char) → Option (List Char)
  | _, _, [] => none
  | previous, kept, c :: cs =>
    if c = separator then
      let later := misgroupedFrom isOfKind written c kept cs
      if isOfKind previous && cs.head?.any isOfKind then later
      else later.orElse fun _ => some (kept ++ written.drop kept.length)
    else misgroupedFrom isOfKind written c (kept ++ [c]) cs

/-- What is told about a number as it was written, if its separators are misplaced. -/
def misgrouped? (literal : NumberLiteral) (written : List Char) : Option (List Char) :=
  match literal with
  | decimal _ => misgroupedFrom isDigit written separator [] written
  | hexadecimal .. => misgroupedFrom Text.isHexDigit written separator [] written

end NumberLiteral

end Statbook.Sqlite
