import Statbook.Calendar.Date
import Statbook.Calendar.Duration

/-!
# Timestamps

Wall-clock times of a day to the nanosecond, and days with such a time. Any second may be prolonged
by a leap second: it lasts two seconds, and its nanoseconds go on counting past a thousand million.
On a clock face only the last second of a minute can be prolonged, where a sixtieth one follows it.
-/

namespace Statbook

/-- The number of seconds of a day. -/
def secondsPerDay : Nat := 86400

/-- A time of the day: its second, and the nanoseconds since that second began. -/
structure ClockTime where
  second : Nat
  nanos : Nat
  second_lt : second < secondsPerDay
  nanos_lt : nanos < 2 * nanosPerSecond
  deriving DecidableEq

namespace ClockTime

/-- The time with this second of the day and these nanoseconds, if there is one. -/
def of? (second nanos : Nat) : Option ClockTime :=
  if hs : second < secondsPerDay then
    if hn : nanos < 2 * nanosPerSecond then some ⟨second, nanos, hs, hn⟩ else none
  else none

/-- The time on the clock face, if there is one. -/
def ofFace? (hour minute second nanos : Nat) : Option ClockTime :=
  if hour < 24 ∧ minute < 60 ∧ second < 60 ∧ (nanos < nanosPerSecond ∨ second = 59) then
    of? (hour * 3600 + minute * 60 + second) nanos
  else none

/-- Where a second begins no nanoseconds have passed. -/
theorem nanos_zero_lt : 0 < 2 * nanosPerSecond := by
  decide

/-- The first moment of a day. -/
def midnight : ClockTime :=
  ⟨0, 0, by decide, nanos_zero_lt⟩

/-- The last microsecond of a day. -/
def lastMicrosecond : ClockTime :=
  ⟨86399, 999999000, by decide, by decide⟩

/-- The last nanosecond of a day without a leap second. -/
def lastNanosecond : ClockTime :=
  ⟨86399, 999999999, by decide, by decide⟩

/-- The hour of the day. -/
def hour (t : ClockTime) : Nat := t.second / 3600

/-- The minute of the hour. -/
def minute (t : ClockTime) : Nat := t.second / 60 % 60

/-- The second of the minute. -/
def secondOfMinute (t : ClockTime) : Nat := t.second % 60

/-- Whether the time lies in the second half of a leap second. -/
def isLeap (t : ClockTime) : Bool := nanosPerSecond ≤ t.nanos

/-- The nanoseconds of the second that a clock shows, which counts a leap second as the next one. -/
def shownNanos (t : ClockTime) : Nat := t.nanos % nanosPerSecond

/-- The second of the minute that a clock shows. -/
def shownSecond (t : ClockTime) : Nat := t.secondOfMinute + t.nanos / nanosPerSecond

end ClockTime

/-- A day and a time of it, on the clock of wherever the library runs. -/
structure Timestamp where
  date : Date
  time : ClockTime
  deriving DecidableEq

namespace Timestamp

/-- The earlier day comes first, then the earlier second, then fewer nanoseconds. -/
def lt (s t : Timestamp) : Prop :=
  s.date.dayNumber < t.date.dayNumber ∨ s.date.dayNumber = t.date.dayNumber ∧
    (s.time.second < t.time.second ∨
      s.time.second = t.time.second ∧ s.time.nanos < t.time.nanos)

instance : LT Timestamp := ⟨lt⟩

instance (s t : Timestamp) : Decidable (s < t) :=
  inferInstanceAs (Decidable (_ ∨ _ ∧ (_ ∨ _ ∧ _)))

/-- The last moment that time arithmetic reaches. -/
def last : Timestamp :=
  ⟨Date.last, .lastNanosecond⟩

/-- The first moment of a day. -/
def startOf (d : Date) : Timestamp :=
  ⟨d, .midnight⟩

/-- The last microsecond of a day. -/
def endOf (d : Date) : Timestamp :=
  ⟨d, .lastMicrosecond⟩

/-- The longest duration that can be added: its milliseconds fit into 63 bits. -/
def longestStep : Nat := Int64.maxValue.toInt.toNat * nanosPerMilli

/-- The time `seconds` seconds and `nanos` nanoseconds after the start of a day, carried over
to the following days. -/
def carry? (date : Date) (seconds nanos : Nat) : Option Timestamp := do
  let seconds := seconds + nanos / nanosPerSecond
  let date ← date.addDays? (seconds / secondsPerDay : Nat)
  let time ← ClockTime.of? (seconds % secondsPerDay) (nanos % nanosPerSecond)
  pure ⟨date, time⟩

/-- The time a duration later, if the calendar has it. Within a leap second the nanoseconds
go on counting; once it is left, it counts as the one second it was. -/
def add? (t : Timestamp) (d : Duration) : Option Timestamp :=
  if longestStep < d.nanos then none
  else if t.time.isLeap then
    if t.time.nanos + d.nanos < 2 * nanosPerSecond then
      (ClockTime.of? t.time.second (t.time.nanos + d.nanos)).map fun time => ⟨t.date, time⟩
    else
      carry? t.date (t.time.second + d.seconds) (t.time.shownNanos + d.subsecond)
  else
    carry? t.date (t.time.second + d.seconds) (t.time.nanos + d.subsecond)

/-- The time a duration later; the last moment of the calendar where that lies beyond it. -/
def addSaturating (t : Timestamp) (d : Duration) : Timestamp :=
  (t.add? d).getD last

end Timestamp

end Statbook
