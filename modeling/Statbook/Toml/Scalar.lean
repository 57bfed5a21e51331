import Statbook.Calendar.Date
import Statbook.Decimal.Reader
import Statbook.Text.Pieces
import Statbook.Toml.Text
import Statbook.Toml.Value

/-!
# Words, numbers and moments in TOML

Values that stand without quotes: the truth values, integers in four bases, floats, dates and
times. Digits may have single underscores between them.
-/

namespace Statbook.Toml

open Decimal

/-- The digits without the underscores between them. -/
def plainDigits? (accept : Char → Bool) (cs : List Char) : Option (List Char) :=
  let groups := Text.splitChars '_' cs
  if groups.all fun group => !group.isEmpty && group.all accept then some groups.flatten else none

/-- A sign and what follows it. -/
def splitSign : List Char → Bool × List Char
  | '-' :: cs => (true, cs)
  | '+' :: cs => (false, cs)
  | cs => (false, cs)

/-- The digits of a decimal integer without its sign, which do not start with a zero but for
zero itself. -/
def wholeDigits? (cs : List Char) : Option (List Char) :=
  (plainDigits? isDigit cs).filter fun ds => ds.length = 1 || ds.head? ≠ some '0'

/-- The number that digits of a base write. -/
def baseNumber? (base : Nat) (cs : List Char) : Option Int :=
  let valueOf (c : Char) := (Text.hexValue? c).filter (· < base)
  (plainDigits? (fun c => (valueOf c).isSome) cs).map fun ds =>
    (ds.foldl (fun n c => base * n + (valueOf c).getD 0) 0 : Nat)

/-- The integers that a document may hold: those of 128 bits, with a sign or without. -/
def isHeld (n : Int) : Bool :=
  -((Nat.pow 2 127 : Nat) : Int) ≤ n && n < (Nat.pow 2 128 : Nat)

/-- An integer. -/
def integer? (cs : List Char) : Option Value :=
  let read := match cs with
    | '0' :: 'x' :: ds => baseNumber? 16 ds
    | '0' :: 'o' :: ds => baseNumber? 8 ds
    | '0' :: 'b' :: ds => baseNumber? 2 ds
    | _ =>
      let (negative, ds) := splitSign cs
      (wholeDigits? ds).map fun ds =>
        let n : Int := foldDigits 0 ds
        if negative then -n else n
  (read.filter isHeld).map Value.integer

/-- The digits after a point; without a point there are none. -/
def fractionDigits? : List Char → Option (List Char)
  | [] => some []
  | '.' :: ds => plainDigits? isDigit ds
  | _ => none

/-- The power of ten after its mark; without a mark it is zero. -/
def power? : List Char → Option Int
  | [] => some 0
  | _ :: cs =>
    let (negative, ds) := splitSign cs
    (plainDigits? isDigit ds).map fun ds =>
      let n : Int := foldDigits 0 ds
      if negative then -n else n

/-- A float. -/
def float? (cs : List Char) : Option Value :=
  let (negative, cs) := splitSign cs
  let signed (x : Float) := Value.float (if negative then -x else x)
  if cs = "inf".toList then some (signed (1.0 / 0.0))
  else if cs = "nan".toList then some (signed (0.0 / 0.0))
  else do
    let isMark (c : Char) := c = 'e' || c = 'E'
    let mantissa := cs.takeWhile (!isMark ·)
    let whole ← wholeDigits? (mantissa.takeWhile (· ≠ '.'))
    let fraction ← fractionDigits? (mantissa.dropWhile (· ≠ '.'))
    let power ← power? (cs.dropWhile (!isMark ·))
    some (signed (Written.value ⟨whole, fraction, power⟩))

/-- The number that so many digits write. -/
def Reader.fixedNumber (width : Nat) : Reader Nat := fun cs =>
  let ds := cs.take width
  if ds.length = width && ds.all isDigit then some (foldDigits 0 ds, cs.drop width) else none

/-- Takes a character. -/
def Reader.char (c : Char) : Reader Unit
  | [] => none
  | d :: cs => if c = d then some ((), cs) else none

/-- A date. -/
def Reader.date : Reader Date := fun cs => do
  let (year, cs) ← fixedNumber 4 cs
  let (_, cs) ← char '-' cs
  let (month, cs) ← fixedNumber 2 cs
  let (_, cs) ← char '-' cs
  let (day, cs) ← fixedNumber 2 cs
  let date ← Date.of? year month day
  pure (date, cs)

/-- An hour and a minute. -/
def Reader.hourAndMinute : Reader Unit := fun cs => do
  let (hour, cs) ← fixedNumber 2 cs
  let (_, cs) ← char ':' cs
  let (minute, cs) ← fixedNumber 2 cs
  if hour ≤ 23 && minute ≤ 59 then pure ((), cs) else none

/-- The seconds of a time of day with any fraction; they may be left out. -/
def Reader.seconds : Reader Unit
  | ':' :: cs => do
    let (second, cs) ← fixedNumber 2 cs
    if 60 < second then none
    else match cs with
      | '.' :: cs =>
        let (ds, rest) := spanDigits cs
        if ds.isEmpty then none else pure ((), rest)
      | _ => pure ((), cs)
  | cs => some ((), cs)

/-- A time of day. -/
def Reader.timeOfDay : Reader Unit := fun cs =>
  (hourAndMinute cs).bind fun (_, cs) => seconds cs

/-- The distance from universal time; it may be left out. -/
def Reader.offset : Reader Unit
  | 'Z' :: cs => some ((), cs)
  | 'z' :: cs => some ((), cs)
  | '+' :: cs => hourAndMinute cs
  | '-' :: cs => hourAndMinute cs
  | cs => some ((), cs)

/-- Whether a text is a date, a time of day, or both. -/
def isMoment (cs : List Char) : Bool :=
  match Reader.date cs with
  | some (_, []) => true
  | some (_, separator :: cs) =>
    (separator = 'T' || separator = 't' || separator = ' ') &&
      (match (Reader.timeOfDay cs).bind fun (_, cs) => Reader.offset cs with
        | some (_, []) => true
        | _ => false)
  | none =>
    match Reader.timeOfDay cs with
    | some (_, []) => true
    | _ => false

/-- The value that characters without quotes write. -/
def scalar? (cs : List Char) : Option Value :=
  if cs = "true".toList then some (.boolean true)
  else if cs = "false".toList then some (.boolean false)
  else integer? cs <|> float? cs <|>
    (if isMoment cs then some (.moment (String.ofList cs)) else none)

/-- A character of a value without quotes. -/
def isScalarChar (c : Char) : Bool :=
  c.isAlphanum || c = '+' || c = '-' || c = '_' || c = '.' || c = ':'

/-- A value without quotes. A single blank may stand between a date and a time of day. -/
def Reader.scalar : Reader Value := fun cs =>
  let first := cs.takeWhile isScalarChar
  let rest := cs.dropWhile isScalarChar
  match date first, rest with
  | some (_, []), ' ' :: c :: more =>
    if isDigit c then
      (scalar? (first ++ ' ' :: (c :: more).takeWhile isScalarChar)).map fun v =>
        (v, (c :: more).dropWhile isScalarChar)
    else (scalar? first).map fun v => (v, rest)
  | _, _ => (scalar? first).map fun v => (v, rest)

end Statbook.Toml
