import Statbook.Decimal.Whole
import Statbook.Calendar.Timestamp

/-!
# Texts of dates and timestamps

The text of a date, the text of a timestamp in SQL with its microseconds, and the text of a
timestamp in JSON with as many digits of the second as it needs.
-/

namespace Statbook

open Decimal

/-- Years of four digits stand by themselves; the others have a sign and at least four. -/
def yearText (year : Int) : List Char :=
  if 0 ≤ year ∧ year ≤ 9999 then fixedDigits 4 year.toNat
  else (if year < 0 then '-' else '+') :: paddedDigits 4 year.natAbs

/-- Year, month and day with hyphens between them. -/
def Date.chars (d : Date) : List Char :=
  yearText d.year ++ '-' :: fixedDigits 2 d.month ++ '-' :: fixedDigits 2 d.day

/-- Year, month and day with hyphens between them. -/
def Date.text (d : Date) : String :=
  String.ofList d.chars

/-- Hour, minute and second with colons between them; a leap second is the sixtieth. -/
def ClockTime.faceChars (t : ClockTime) : List Char :=
  fixedDigits 2 t.hour ++ ':' :: fixedDigits 2 t.minute ++ ':' :: fixedDigits 2 t.shownSecond

/-- The digits of the second that are needed: none, or three, six or nine after a point. -/
def fractionChars (nanos : Nat) : List Char :=
  if nanos = 0 then []
  else if nanos % 1000000 = 0 then '.' :: fixedDigits 3 (nanos / 1000000)
  else if nanos % 1000 = 0 then '.' :: fixedDigits 6 (nanos / 1000)
  else '.' :: fixedDigits 9 nanos

namespace Timestamp

/-- Date and time with a blank between them and six digits of the second; further digits are
cut off. -/
def sqlChars (t : Timestamp) : List Char :=
  t.date.chars ++ ' ' :: t.time.faceChars ++ '.' :: fixedDigits 6 (t.time.shownNanos / 1000)

/-- The timestamp as SQL compares it. -/
def sqlText (t : Timestamp) : String :=
  String.ofList t.sqlChars

/-- Date and time with a `T` between them and the digits of the second that are needed. -/
def jsonText (t : Timestamp) : String :=
  String.ofList (t.date.chars ++ 'T' :: t.time.faceChars ++ fractionChars t.time.shownNanos)

end Timestamp

end Statbook
