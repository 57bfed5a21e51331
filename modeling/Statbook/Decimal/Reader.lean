import Statbook.Decimal.Whole

/-!
# Reading floating-point numbers

A decimal is an optional sign, digits with an optional point among them, and an optional
power of ten. It is read to the nearest float. The words for infinity and for "not a number"
are read in any case.
-/

namespace Statbook.Decimal

/-- The float nearest to `coefficient * 10 ^ exponent`. Values beyond every float are settled
by their number of digits, so that no power of ten larger than needed is built. -/
def scale (coefficient : Nat) (exponent : Int) : Float :=
  if coefficient = 0 then 0.0
  else
    let size : Int := (Nat.toDigits 10 coefficient).length + exponent
    if 310 < size then Float.ofScientific 1 false 400
    else if size < -330 then 0.0
    else if exponent < 0 then Float.ofScientific coefficient true exponent.natAbs
    else Float.ofScientific coefficient false exponent.natAbs

/-- Digits before and after the point and the power of ten, as written. -/
structure Written where
  whole : List Char
  fraction : List Char
  power : Int
  deriving DecidableEq, Repr

/-- The value that is written. -/
def Written.value (w : Written) : Float :=
  scale (foldDigits 0 (w.whole ++ w.fraction)) (w.power - w.fraction.length)

/-- The leading digits and what follows them. -/
def spanDigits (cs : List Char) : List Char × List Char :=
  (cs.takeWhile isDigit, cs.dropWhile isDigit)

/-- The power of ten after its mark; the whole text is taken. -/
def readPower? : List Char → Option Int
  | [] => some 0
  | c :: cs => if c = 'e' ∨ c = 'E' then readInt? cs else none

/-- A decimal without its sign; one digit at least stands beside the point. -/
def readWritten? (cs : List Char) : Option Written :=
  let (whole, rest) := spanDigits cs
  let (fraction, rest) := match rest with
    | '.' :: rest => spanDigits rest
    | _ => ([], rest)
  if whole.isEmpty && fraction.isEmpty then none
  else (readPower? rest).map fun power => ⟨whole, fraction, power⟩

/-- A decimal or a word without its sign. -/
def readMagnitude? (cs : List Char) : Option Float :=
  let word := String.ofList (cs.map Char.toLower)
  if word = "inf" ∨ word = "infinity" then some (1.0 / 0.0)
  else if word = "nan" then some (0.0 / 0.0)
  else (readWritten? cs).map Written.value

/-- The float that a whole text writes. -/
def readFloat? : List Char → Option Float
  | '-' :: cs => (readMagnitude? cs).map (-·)
  | '+' :: cs => readMagnitude? cs
  | cs => readMagnitude? cs

end Statbook.Decimal
