import Statbook.Text.Blank
import Statbook.Decimal.Whole
import Statbook.Calendar.Timestamp

/-!
# Reading dates and timestamps

A date is a year, a month and a day with hyphens between them. A timestamp is a date, blanks
or a `T`, and hour, minute and second with colons between them; digits of the second may
follow after a point. Blanks may stand before every number, and the whole text is taken.
-/

namespace Statbook

open Decimal

/-- What a reader takes from the front of a text, and what follows it. -/
abbrev FrontReader (α : Type) := List Char → Option (α × List Char)

namespace CalendarReader

/-- One to `width` digits. -/
def digitRun (width : Nat) : FrontReader Nat := fun cs =>
  let ds := (cs.take width).takeWhile isDigit
  if ds.isEmpty then none else some (foldDigits 0 ds, cs.drop ds.length)

/-- A number of one or two digits after any blanks. -/
def field : FrontReader Nat := fun cs =>
  digitRun 2 (Text.skipBlanks cs)

/-- A year after any blanks: up to four digits, or a sign and any number of them. -/
def year : FrontReader Int := fun cs =>
  let cs := Text.skipBlanks cs
  match cs with
  | '-' :: rest => (digitRun rest.length rest).map fun (n, rest) => (-(n : Int), rest)
  | '+' :: rest => (digitRun rest.length rest).map fun (n, rest) => ((n : Int), rest)
  | _ => (digitRun 4 cs).map fun (n, rest) => ((n : Int), rest)

/-- The character `c`. -/
def mark (c : Char) : List Char → Option (List Char)
  | d :: rest => if c = d then some rest else none
  | [] => none

/-- Year, month and day. -/
def date : FrontReader Date := fun cs => do
  let (year, cs) ← year cs
  let cs ← mark '-' cs
  let (month, cs) ← field cs
  let cs ← mark '-' cs
  let (day, cs) ← field cs
  let date ← Date.of? year month day
  pure (date, cs)

/-- The digits of the second as nanoseconds; digits after the ninth are passed over. -/
def fraction : FrontReader Nat
  | '.' :: cs =>
    let ds := (cs.take 9).takeWhile isDigit
    if ds.isEmpty then none
    else some (foldDigits 0 ds * Nat.pow 10 (9 - ds.length), (cs.drop ds.length).dropWhile isDigit)
  | cs => some (0, cs)

/-- Hour, minute and second; the sixtieth second is the second half of a leap second. -/
def clockTime : FrontReader ClockTime := fun cs => do
  let (hour, cs) ← field cs
  let cs ← mark ':' cs
  let (minute, cs) ← field cs
  let cs ← mark ':' cs
  let (second, cs) ← field cs
  let (nanos, cs) ← fraction cs
  let time ←
    if second = 60 then ClockTime.ofFace? hour minute 59 (nanos + nanosPerSecond)
    else ClockTime.ofFace? hour minute second nanos
  pure (time, cs)

/-- Date and time with what `between` takes between them. -/
def timestamp (between : List Char → Option (List Char)) : FrontReader Timestamp := fun cs => do
  let (date, cs) ← date cs
  let cs ← between cs
  let (time, cs) ← clockTime cs
  pure (⟨date, time⟩, cs)

/-- What is read, if nothing follows it. -/
def whole {α : Type} (reader : FrontReader α) (cs : List Char) : Option α :=
  match reader cs with
  | some (value, []) => some value
  | _ => none

end CalendarReader

/-- The date that a whole text writes. -/
def Date.read? (cs : List Char) : Option Date :=
  CalendarReader.whole CalendarReader.date cs

/-- The timestamp that a whole text writes, with blanks or with a `T`. -/
def Timestamp.read? (cs : List Char) : Option Timestamp :=
  (CalendarReader.whole (CalendarReader.timestamp fun cs => some (Text.skipBlanks cs)) cs).orElse
    fun _ => CalendarReader.whole (CalendarReader.timestamp (CalendarReader.mark 'T')) cs

end Statbook
