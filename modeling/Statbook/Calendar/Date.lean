/-!
# Dates

Days of the proleptic Gregorian calendar, in which a year zero exists, from the first day of
the year -262143 to the last day of the year 262142. Days are numbered from the first of
January of the year one, a Monday, so that weeks and distances are plain arithmetic.
-/

namespace Statbook

/-- Every fourth year is a leap year, but of the full centuries only every fourth one. -/
def isLeapYear (year : Int) : Bool :=
  year % 4 = 0 && (year % 100 ≠ 0 || year % 400 = 0)

/-- The lengths of the months of a year, in order. -/
def monthLengths (year : Int) : List Nat :=
  [31, if isLeapYear year then 29 else 28, 31, 30, 31, 30, 31, 31, 30, 31, 30, 31]

/-- The number of days of a month counted from one; no days outside the twelve months. -/
def daysInMonth (year : Int) (month : Nat) : Nat :=
  if month = 0 then 0 else (monthLengths year).getD (month - 1) 0

/-- The first year of the calendar. -/
def firstYear : Int := -262143

/-- The last year of the calendar. -/
def lastYear : Int := 262142

/-- A day of the calendar. -/
structure Date where
  year : Int
  month : Nat
  day : Nat
  year_mem : firstYear ≤ year ∧ year ≤ lastYear
  day_mem : 1 ≤ day ∧ day ≤ daysInMonth year month
  deriving DecidableEq

namespace Date

/-- The day with these numbers, if the calendar has it. -/
def of? (year : Int) (month day : Nat) : Option Date :=
  if hy : firstYear ≤ year ∧ year ≤ lastYear then
    if hd : 1 ≤ day ∧ day ≤ daysInMonth year month then some ⟨year, month, day, hy, hd⟩
    else none
  else none

/-- The number of days from the start of the year one to the start of `year`. -/
def daysBeforeYear (year : Int) : Int :=
  let past := year - 1
  365 * past + past / 4 - past / 100 + past / 400

/-- The number of days of the year before the month. -/
def daysBeforeMonth (year : Int) (month : Nat) : Nat :=
  ((monthLengths year).take (month - 1)).foldl (· + ·) 0

/-- The number of days from the first day of the year one to this day. -/
def dayNumber (d : Date) : Int :=
  daysBeforeYear d.year + daysBeforeMonth d.year d.month + d.day - 1

/-- The year that a numbered day lies in: the mean length of a year gives it up to one year
either way. -/
def yearOfDayNumber (n : Int) : Int :=
  let guess := n * 400 / 146097 + 1
  if n < daysBeforeYear guess then guess - 1
  else if n < daysBeforeYear (guess + 1) then guess
  else guess + 1

/-- The month, counted from `month`, and the day of it, counted from one, of the day with
`rest` days before it. -/
def monthAndDay : (lengths : List Nat) → (month rest : Nat) → Nat × Nat
  | [], month, rest => (month, rest + 1)
  | length :: lengths, month, rest =>
    if rest < length then (month, rest + 1)
    else monthAndDay lengths (month + 1) (rest - length)

/-- The day with this number, if the calendar has it. -/
def ofDayNumber? (n : Int) : Option Date :=
  let year := yearOfDayNumber n
  let (month, day) := monthAndDay (monthLengths year) 1 (n - daysBeforeYear year).toNat
  of? year month day

/-- The day so many days later, if the calendar has it. -/
def addDays? (d : Date) (days : Int) : Option Date :=
  ofDayNumber? (d.dayNumber + days)

/-- The number of days since the last Monday. -/
def daysSinceMonday (d : Date) : Nat :=
  (d.dayNumber % 7).toNat

/-- The first day of the following month, if the calendar has it. -/
def firstOfNextMonth? (d : Date) : Option Date :=
  if d.month = 12 then of? (d.year + 1) 1 1 else of? d.year (d.month + 1) 1

/-- The last day of the calendar. -/
def last : Date :=
  ⟨lastYear, 12, 31, by decide, by decide⟩

end Date

end Statbook
