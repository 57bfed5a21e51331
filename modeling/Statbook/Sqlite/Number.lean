import Statbook.Decimal.Reader
import Statbook.Decimal.Layout

/-!
# Numbers in SQLite texts

A text counts as a number if it is a decimal between blanks; a decimal without a point and
without an exponent is an integer where it fits. Any text has the value of the decimal at its
front. A text is read no further than to a NUL, and a float from no more than about nineteen
digits.
-/

namespace Statbook.Sqlite

open Decimal

/-- The ASCII blanks. -/
def isSpace (c : Char) : Bool :=
  c = ' ' || (0x09 ≤ c.toNat && c.toNat ≤ 0x0D)

/-- A decimal with its sign. -/
structure Numeral where
  negative : Bool
  written : Written
  /-- No point and no exponent were written. -/
  plain : Bool
  deriving DecidableEq, Repr

/-- A significand of this size takes no further digit: with any of the ten it might leave
64 bits. -/
def fullSignificand : Nat := (UInt64.size - 10) / 10

/-- The significand with digits added until it is full, and the number of the others. -/
def addDigits (significand : Nat) : List Char → Nat × Nat
  | [] => (significand, 0)
  | c :: cs =>
    if fullSignificand ≤ significand then (significand, cs.length + 1)
    else addDigits (10 * significand + digitValue c) cs

/-- The float that a numeral writes. Digits that the significand does not take count as
zeros. -/
def Numeral.real (n : Numeral) : Float :=
  let (significand, dropped) := addDigits 0 n.written.whole
  let (significand, unused) := addDigits significand n.written.fraction
  let magnitude :=
    scale significand (n.written.power + dropped + unused - n.written.fraction.length)
  if n.negative then -magnitude else magnitude

/-- The integer that a numeral without point and exponent writes. -/
def Numeral.int (n : Numeral) : Int :=
  let magnitude : Int := foldDigits 0 n.written.whole
  if n.negative then -magnitude else magnitude

/-- The sign at the front of a text. -/
def splitSign : List Char → Bool × List Char
  | '-' :: cs => (true, cs)
  | '+' :: cs => (false, cs)
  | cs => (false, cs)

/-- The exponent at the front of a text; a mark without digits is none. -/
def readPower : List Char → Option Int × List Char
  | [] => (none, [])
  | c :: cs =>
    if c = 'e' ∨ c = 'E' then
      let (negative, afterSign) := splitSign cs
      let (ds, rest) := spanDigits afterSign
      if ds.isEmpty then (none, c :: cs)
      else
        let magnitude : Int := foldDigits 0 ds
        (some (if negative then -magnitude else magnitude), rest)
    else (none, c :: cs)

/-- The numeral at the front of a text, after any blanks. -/
def readNumeral? (cs : List Char) : Option (Numeral × List Char) :=
  let (negative, cs) := splitSign (cs.dropWhile isSpace)
  let (whole, cs) := spanDigits cs
  let (fraction, cs, pointed) := match cs with
    | '.' :: rest => let (fraction, rest) := spanDigits rest; (fraction, rest, true)
    | _ => ([], cs, false)
  if whole.isEmpty && fraction.isEmpty then none
  else
    let (power, cs) := readPower cs
    some (⟨negative, ⟨whole, fraction, power.getD 0⟩, !pointed && power.isNone⟩, cs)

/-- A character that ends what is read of a text. -/
def nul : Char := '\x00'

/-- The text in front of a NUL. -/
def beforeNul (cs : List Char) : List Char :=
  cs.takeWhile (· ≠ nul)

/-- The numeral that a text consists of, blanks aside. -/
def numeral? (cs : List Char) : Option Numeral :=
  match readNumeral? (beforeNul cs) with
  | some (n, rest) => if rest.all isSpace then some n else none
  | none => none

/-- The float at the front of a text; zero where there is none. -/
def frontReal (cs : List Char) : Float :=
  match readNumeral? cs with
  | some (n, _) => n.real
  | none => 0.0

/-- The integer that a float is, unless it is at the ends of the 64-bit range or beyond. -/
def wholeReal? (x : Float) : Option Int64 :=
  match Parts.ofFloat x with
  | .finite negative mantissa exponent =>
    let unit := Nat.pow 2 (-exponent).toNat
    let scaled := mantissa * Nat.pow 2 exponent.toNat
    let magnitude := scaled / unit
    if scaled % unit = 0 ∧ (magnitude : Int) < Int64.maxValue.toInt then
      some (Int64.ofInt (if negative then -(magnitude : Int) else magnitude))
    else none
  | _ => none

end Statbook.Sqlite
