import Statbook.Text.Pieces
import Statbook.Calendar.Timestamp

/-!
# Windows of time

The day, the week, the month and the year that hold a moment. A window reaches from the
start of its first day to the last microsecond of its last day; weeks start on Monday.
-/

namespace Statbook

/-- A window of time around the present. -/
inductive Window where
  | today
  | week
  | month
  | year
  deriving DecidableEq, Repr

namespace Window

/-- The filter key that stands for the window. -/
def key : Window → String
  | today => "range_today"
  | week => "range_week"
  | month => "range_month"
  | year => "range_year"

/-- The filter keys that stand for a window. -/
def keys : List String :=
  [today.key, week.key, month.key, year.key]

/-- Whether a filter key stands for a window. -/
def isKey (key : String) : Bool :=
  keys.contains key

/-- The window that a bare word names. -/
def ofWord? (word : String) : Option Window :=
  if word = "today" then some today
  else if word = "week" then some week
  else if word = "month" then some month
  else if word = "year" then some year
  else none

/-- The window that a key or a bare word names. -/
def ofKey? (key : String) : Option Window :=
  match Text.afterStart? "range_".toList key.toList with
  | some word => ofWord? (String.ofList word)
  | none => ofWord? key

/-- The first and the last day of the window that holds `d`, if the calendar has them. A month
ends on the day before the next month begins. -/
def days? (window : Window) (d : Date) : Option (Date × Date) :=
  match window with
  | today => some (d, d)
  | week => do
    let monday ← d.addDays? (-(d.daysSinceMonday : Int))
    let sunday ← monday.addDays? 6
    pure (monday, sunday)
  | month => do
    let first ← Date.of? d.year d.month 1
    let next ← first.firstOfNextMonth?
    let last ← next.addDays? (-1)
    pure (first, last)
  | year => do
    let first ← Date.of? d.year 1 1
    let last ← Date.of? d.year 12 31
    pure (first, last)

/-- The first and the last moment of the window that holds `now`. -/
def bounds? (window : Window) (now : Timestamp) : Option (Timestamp × Timestamp) :=
  (window.days? now.date).map fun (first, last) => (.startOf first, .endOf last)

end Window

end Statbook
