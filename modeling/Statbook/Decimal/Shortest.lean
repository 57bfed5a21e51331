/-!
# Shortest decimals of floating-point numbers

A finite 64-bit float is `mantissa * 2 ^ exponent`. The reals that round to it form an
interval around it, whose ends belong to it when the mantissa is even. The shortest
decimal of the float is the multiple of the largest power of ten that lies in the interval;
of two such multiples the nearer one, and on an exact tie the one that `Tie` names.

Everything is exact arithmetic on natural numbers: the interval is measured in quarters of
the float's last place, so that its ends are whole numbers too.
-/

namespace Statbook.Decimal

/-- What the 64 bits of a float say. -/
inductive Parts where
  | notANumber
  | infinite (negative : Bool)
  | finite (negative : Bool) (mantissa : Nat) (exponent : Int)
  deriving DecidableEq, Repr

/-- The bit above the fraction field, which is not stored: the least full mantissa. -/
def hiddenBit : Nat := 4503599627370496

/-- The sign, the exponent field and the fraction field of a float, read as a number. -/
def Parts.ofFloat (x : Float) : Parts :=
  let bits := x.toBits.toNat
  let negative : Bool := bits / Nat.pow 2 63 = 1
  let field : Nat := bits / hiddenBit % Nat.pow 2 11
  let fraction : Nat := bits % hiddenBit
  if field = 2047 then
    if fraction = 0 then .infinite negative else .notANumber
  else if field = 0 then .finite negative fraction (-1074)
  else .finite negative (fraction + hiddenBit) ((field : Int) - 1075)

/-- Which of two equally near decimals is taken. -/
inductive Tie where
  | awayFromZero
  | toEven
  deriving DecidableEq, Repr

/-- The reals that round to a float, in quarters of its last place: from `low` over the
float itself, `middle`, to `high`. -/
structure Rounding where
  low : Nat
  middle : Nat
  high : Nat
  closed : Bool
  deriving DecidableEq, Repr

/-- Below a power of two the floats are twice as dense, except below the least one. -/
def Rounding.around (mantissa : Nat) (exponent : Int) : Rounding where
  low := if mantissa = hiddenBit ∧ exponent ≠ -1074 then 4 * mantissa - 1 else 4 * mantissa - 2
  middle := 4 * mantissa
  high := 4 * mantissa + 2
  closed := mantissa % 2 = 0

/-- `coefficient * 10 ^ exponent`. -/
structure Scaled where
  coefficient : Nat
  exponent : Int
  deriving DecidableEq, Repr

/-- Whether `candidate` steps of the grid, each `den / num` quarters long, lie in the interval. -/
def Rounding.holds (r : Rounding) (num den candidate : Nat) : Bool :=
  if r.closed then r.low * num ≤ candidate * den && candidate * den ≤ r.high * num
  else r.low * num < candidate * den && candidate * den < r.high * num

/-- The number of steps of the grid that lie in the interval and nearest to its middle. -/
def Rounding.nearest? (r : Rounding) (tie : Tie) (num den : Nat) : Option Nat :=
  let below := r.middle * num / den
  let above := below + 1
  match r.holds num den below, r.holds num den above with
  | false, false => none
  | true, false => some below
  | false, true => some above
  | true, true =>
    let toBelow := r.middle * num - below * den
    let toAbove := above * den - r.middle * num
    if toBelow < toAbove then some below
    else if toAbove < toBelow then some above
    else match tie with
      | .awayFromZero => some above
      | .toEven => some (if below % 2 = 0 then below else above)

/-- The steps of length `10 ^ grid` in quarters of the last place `2 ^ exponent`, as a ratio. -/
def gridRatio (exponent grid : Int) : Nat × Nat :=
  (Nat.pow 2 (exponent - 2).toNat * Nat.pow 10 (-grid).toNat,
    Nat.pow 2 (2 - exponent).toNat * Nat.pow 10 grid.toNat)

/-- Tries the grids `10 ^ grid`, `10 ^ (grid - 1)`, … and takes the first that has a step in
the interval. -/
def Rounding.search (r : Rounding) (tie : Tie) (exponent : Int) : (tries : Nat) → Int → Scaled
  | 0, grid => ⟨0, grid⟩
  | tries + 1, grid =>
    let (num, den) := gridRatio exponent grid
    match r.nearest? tie num den with
    | some coefficient => ⟨coefficient, grid⟩
    | none => r.search tie exponent tries (grid - 1)

/-- The shortest decimal that rounds to the positive float `mantissa * 2 ^ exponent`. The
search starts above the float; at the latest it ends on the grid `10 ^ (-1074)`, which holds
every float. -/
def shortest (tie : Tie) (mantissa : Nat) (exponent : Int) : Scaled :=
  let whole := mantissa * Nat.pow 2 exponent.toNat / Nat.pow 2 (-exponent).toNat
  let start := (Nat.toDigits 10 whole).length
  (Rounding.around mantissa exponent).search tie exponent (start + 1075) start

end Statbook.Decimal
