/-!
# Durations

Spans of time in whole nanoseconds. The seconds of a duration fit into 64 bits.
-/

namespace Statbook

/-- The number of nanoseconds of a second. -/
def nanosPerSecond : Nat := 1000000000

/-- The number of nanoseconds of a millisecond. -/
def nanosPerMilli : Nat := 1000000

/-- A span of time; its whole seconds fit into 64 bits. -/
structure Duration where
  nanos : Nat
  nanos_lt : nanos < UInt64.size * nanosPerSecond
  deriving DecidableEq

namespace Duration

/-- The duration of so many nanoseconds, if it is in range. -/
def ofNanos? (nanos : Nat) : Option Duration :=
  if h : nanos < UInt64.size * nanosPerSecond then some ⟨nanos, h⟩ else none

/-- The duration of so many seconds. -/
def ofSeconds (seconds : UInt64) : Duration :=
  ⟨seconds.toNat * nanosPerSecond, by
    have := seconds.toNat_lt_size
    unfold nanosPerSecond UInt64.size at *; omega⟩

/-- The duration of so many milliseconds. -/
def ofMillis (millis : UInt64) : Duration :=
  ⟨millis.toNat * nanosPerMilli, by
    have := millis.toNat_lt_size
    unfold nanosPerMilli nanosPerSecond UInt64.size at *; omega⟩

/-- The empty span. -/
def zero : Duration :=
  ofSeconds 0

/-- The whole seconds. -/
def seconds (d : Duration) : Nat :=
  d.nanos / nanosPerSecond

/-- The nanoseconds beyond the whole seconds. -/
def subsecond (d : Duration) : Nat :=
  d.nanos % nanosPerSecond

/-- The shorter of two durations. -/
def shorter (d e : Duration) : Duration :=
  if d.nanos ≤ e.nanos then d else e

/-- So many times the duration, if that is in range. -/
def times? (d : Duration) (n : Nat) : Option Duration :=
  ofNanos? (d.nanos * n)

end Duration

end Statbook
