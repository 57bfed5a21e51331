import Statbook.Proofs.Calendar.Window

/-!
# Adding to a time

The nanoseconds of the calendar are numbered, a leap second like the second that it prolongs. What
is added to a time is added to its number, unless that would pass the last nanosecond. From one time
on there is only one way into a leap second and out of it, so the times that are reached from there
are ordered like their numbers.
-/

namespace Statbook.Timestamp

/-- The number of a time in nanoseconds. The second half of a leap second has the numbers of the
first. -/
def number (t : Timestamp) : Int :=
  (t.date.dayNumber * 86400 + t.time.second) * 1000000000 + t.time.shownNanos

/-- One time is reached from another: its number is not less, it lies in the second half of a leap
second only if the other one does already, and such a half is left for a later second. -/
structure Reaches (s t : Timestamp) : Prop where
  number_le : s.number ≤ t.number
  within : nanosPerSecond ≤ t.time.nanos → nanosPerSecond ≤ s.time.nanos ∧
    t.date.dayNumber = s.date.dayNumber ∧ t.time.second = s.time.second
  beyond : nanosPerSecond ≤ s.time.nanos → t.time.nanos < nanosPerSecond →
    s.date.dayNumber * 86400 + s.time.second < t.date.dayNumber * 86400 + t.time.second

variable {s t u : Timestamp} {d : Duration}

theorem Reaches.refl (t : Timestamp) : t.Reaches t where
  number_le := Int.le_refl _
  within leap := ⟨leap, rfl, rfl⟩
  beyond leap ended := absurd leap (Nat.not_le_of_lt ended)

theorem Reaches.trans (first : s.Reaches t) (second : t.Reaches u) : s.Reaches u where
  number_le := Int.le_trans first.number_le second.number_le
  within leap := by
    obtain ⟨begun, day, second⟩ := second.within leap
    obtain ⟨begun, day', second'⟩ := first.within begun
    exact ⟨begun, day.trans day', second.trans second'⟩
  beyond leap ended := by
    have inDay := t.time.second_lt
    have inDay' := u.time.second_lt
    obtain ⟨-, within, beyond⟩ := first
    obtain ⟨later, -, beyond'⟩ := second
    unfold number ClockTime.shownNanos at later
    unfold secondsPerDay nanosPerSecond at *
    omega

/-- Times reached from the same one are ordered by their numbers. -/
theorem Reaches.lt_iff (first : s.Reaches t) (second : s.Reaches u) :
    t < u ↔ t.number < u.number := by
  have inDay := t.time.second_lt
  have inDay' := u.time.second_lt
  have nanos := t.time.nanos_lt
  have nanos' := u.time.nanos_lt
  obtain ⟨-, within, beyond⟩ := first
  obtain ⟨-, within', beyond'⟩ := second
  rw [Timestamp.lt_iff]
  unfold number ClockTime.shownNanos
  unfold secondsPerDay at inDay inDay'
  unfold nanosPerSecond at *
  omega

theorem Reaches.le_iff (first : s.Reaches t) (second : s.Reaches u) :
    t ≤ u ↔ t.number ≤ u.number := by
  rw [le_iff_not_lt, second.lt_iff first, Int.not_lt]

theorem Reaches.eq_iff (first : s.Reaches t) (second : s.Reaches u) :
    t = u ↔ t.number = u.number := by
  refine ⟨congrArg number, fun same => ?_⟩
  obtain earlier | same := (first.le_iff second).mpr (Int.le_of_eq same)
  · rw [first.lt_iff second] at earlier
    omega
  · exact same

theorem lt_of_le_of_lt (first : s ≤ t) (second : t < u) : s < u := by
  rw [le_iff_not_lt] at first
  rw [Timestamp.lt_iff] at *
  omega

theorem number_last : last.number = last.date.dayNumber * 86400 * 1000000000 + 86399999999999 := by
  decide

/-- Seconds and nanoseconds are carried over to the day that they reach. -/
theorem carry?_eq (date : Date) (seconds nanos : Nat) :
    ∃ time : ClockTime, time.second = (seconds + nanos / nanosPerSecond) % secondsPerDay ∧
      time.nanos = nanos % nanosPerSecond ∧
      carry? date seconds nanos =
        (date.addDays? ((seconds + nanos / nanosPerSecond) / secondsPerDay : Nat)).map
          (⟨·, time⟩) := by
  have second : (seconds + nanos / nanosPerSecond) % secondsPerDay < secondsPerDay :=
    Nat.mod_lt _ (by decide)
  have plain : nanos % nanosPerSecond < nanosPerSecond := Nat.mod_lt _ (by decide)
  have short := Nat.lt_trans plain (show nanosPerSecond < 2 * nanosPerSecond by decide)
  refine ⟨⟨_, _, second, short⟩, rfl, rfl, ?_⟩
  simp only [carry?, ClockTime.of?, dif_pos second, dif_pos short]
  cases date.addDays? ((seconds + nanos / nanosPerSecond) / secondsPerDay : Nat) <;> rfl

theorem of_carry? {date : Date} {seconds nanos : Nat}
    (carried : carry? date seconds nanos = some t) :
    t.time.nanos < nanosPerSecond ∧
      t.number = (date.dayNumber * 86400 + seconds) * 1000000000 + nanos := by
  obtain ⟨time, second, subsecond, same⟩ := carry?_eq date seconds nanos
  obtain ⟨date', later, rfl⟩ := Option.map_eq_some_iff.mp (same.symm.trans carried)
  have day := Date.addDays?_eq_some_iff.mp later
  have inDay := time.second_lt
  simp only [number, ClockTime.shownNanos, day, second, subsecond]
  unfold secondsPerDay nanosPerSecond at *
  omega

theorem carry?_eq_none_iff {date : Date} {seconds nanos : Nat} :
    carry? date seconds nanos = none ↔
      last.number < (date.dayNumber * 86400 + seconds) * 1000000000 + nanos := by
  obtain ⟨time, -, -, same⟩ := carry?_eq date seconds nanos
  have begun := date.dayNumber_mem_calendar.1
  rw [same, Option.map_eq_none_iff, Date.addDays?_eq_none_iff, number_last]
  show _ ∨ last.date.dayNumber < _ ↔ _
  unfold secondsPerDay nanosPerSecond
  omega

/-- The longest step passes the end of the calendar from every time. -/
theorem last_lt_longestStep (t : Timestamp) : last.number < t.number + longestStep := by
  have begun := t.date.dayNumber_mem_calendar.1
  have long : last.date.dayNumber - Date.first.dayNumber < 200000000 := by decide
  have step : longestStep = 9223372036854775807000000 := by decide
  have subsecond : t.time.shownNanos < nanosPerSecond := Nat.mod_lt _ (by decide)
  rw [number_last, step]
  unfold number
  omega

theorem seconds_subsecond (d : Duration) : d.seconds * 1000000000 + d.subsecond = d.nanos :=
  Nat.div_add_mod' d.nanos nanosPerSecond

/-- The second half of a leap second has begun and is not over so much later. -/
def LeapLasts (t : Timestamp) (d : Duration) : Prop :=
  nanosPerSecond ≤ t.time.nanos ∧ t.time.nanos + d.nanos < 2 * nanosPerSecond

instance (t : Timestamp) (d : Duration) : Decidable (t.LeapLasts d) :=
  inferInstanceAs (Decidable (_ ∧ _))

theorem add?_of_leapLasts (lasts : t.LeapLasts d) :
    ∃ time : ClockTime, time.second = t.time.second ∧ time.nanos = t.time.nanos + d.nanos ∧
      t.add? d = some ⟨t.date, time⟩ := by
  obtain ⟨leap, stays⟩ := lasts
  have short : ¬longestStep < d.nanos := by
    have long : 2 * nanosPerSecond < longestStep := by decide
    omega
  refine ⟨⟨_, _, t.time.second_lt, stays⟩, rfl, rfl, ?_⟩
  have isLeap : t.time.isLeap = true := decide_eq_true leap
  rw [add?, if_neg short, if_pos isLeap, if_pos stays, ClockTime.of?, dif_pos t.time.second_lt,
    dif_pos stays]
  rfl

/-- Otherwise the sum is carried over from what a clock shows. -/
theorem add?_of_not_leapLasts (short : d.nanos ≤ longestStep) (ended : ¬t.LeapLasts d) :
    t.add? d = carry? t.date (t.time.second + d.seconds) (t.time.shownNanos + d.subsecond) := by
  rw [add?, if_neg (Nat.not_lt.mpr short)]
  split
  · next leap => rw [if_neg fun stays => ended ⟨of_decide_eq_true leap, stays⟩]
  · next ordinary =>
    have plain : t.time.nanos < nanosPerSecond := by
      simpa [ClockTime.isLeap] using ordinary
    rw [ClockTime.shownNanos, Nat.mod_eq_of_lt plain]

/-- What is added to a time is added to its number. -/
theorem of_add? (added : t.add? d = some u) : t.Reaches u ∧ u.number = t.number + d.nanos := by
  by_cases lasts : t.LeapLasts d
  · obtain ⟨time, second, later, same⟩ := add?_of_leapLasts lasts
    obtain rfl := Option.some.inj (same.symm.trans added)
    have numbered : number ⟨t.date, time⟩ = t.number + d.nanos := by
      obtain ⟨leap, stays⟩ := lasts
      simp only [number, ClockTime.shownNanos, second, later]
      unfold nanosPerSecond at *
      omega
    refine ⟨⟨by omega, fun _ => ⟨lasts.1, rfl, second⟩, fun leap ended => ?_⟩, numbered⟩
    simp only [later] at ended
    omega
  · have short : d.nanos ≤ longestStep := by
      apply Nat.not_lt.mp
      intro long
      rw [add?, if_pos long] at added
      cases added
    rw [add?_of_not_leapLasts short lasts] at added
    obtain ⟨plain, carried⟩ := of_carry? added
    have numbered : u.number = t.number + d.nanos := by
      have whole := seconds_subsecond d
      rw [carried, number]
      omega
    refine ⟨⟨by omega, fun leap => absurd leap (Nat.not_le_of_lt plain), fun leap _ => ?_⟩,
      numbered⟩
    have prolonged := t.time.nanos_lt
    unfold LeapLasts at lasts
    unfold number ClockTime.shownNanos at numbered
    unfold nanosPerSecond at *
    omega

/-- The last nanosecond is reached from every time that does not come after it. -/
theorem reaches_last (inCalendar : t ≤ last) : t.Reaches last := by
  have second : last.time.second = 86399 := rfl
  have nanos : last.time.nanos = 999999999 := rfl
  have inDay := t.time.second_lt
  rw [le_iff_not_lt, Timestamp.lt_iff] at inCalendar
  unfold secondsPerDay at inDay
  refine ⟨?_, fun leap => absurd leap (by decide), fun leap _ => ?_⟩
  · rw [number_last]
    unfold number ClockTime.shownNanos nanosPerSecond
    omega
  · unfold nanosPerSecond at leap
    omega

/-- Nothing is added exactly where the calendar ends before. -/
theorem add?_eq_none_iff (inCalendar : t ≤ last) :
    t.add? d = none ↔ last.number < t.number + d.nanos := by
  by_cases long : longestStep < d.nanos
  · have passes := last_lt_longestStep t
    rw [add?, if_pos long]
    exact ⟨fun _ => by omega, fun _ => rfl⟩
  by_cases lasts : t.LeapLasts d
  · obtain ⟨time, second, later, same⟩ := add?_of_leapLasts lasts
    have before := (reaches_last inCalendar).beyond lasts.1 (by decide)
    have second : last.time.second = 86399 := rfl
    have fits : t.number + d.nanos < last.number := by
      obtain ⟨leap, stays⟩ := lasts
      rw [number_last, number, ClockTime.shownNanos]
      unfold nanosPerSecond at *
      omega
    rw [same]
    exact ⟨fun absent => (Option.some_ne_none _ absent).elim, fun passes => by omega⟩
  · have whole := seconds_subsecond d
    rw [add?_of_not_leapLasts (Nat.not_lt.mp long) lasts, carry?_eq_none_iff]
    unfold number
    omega

/-- Beyond the last nanosecond nothing is added. -/
theorem number_addSaturating (inCalendar : t ≤ last) (d : Duration) :
    t.Reaches (t.addSaturating d) ∧
      (t.addSaturating d).number = min (t.number + d.nanos) last.number := by
  unfold addSaturating
  cases added : t.add? d with
  | none =>
    have passes := (add?_eq_none_iff inCalendar).mp added
    exact ⟨reaches_last inCalendar, by rw [Option.getD_none]; omega⟩
  | some u =>
    obtain ⟨reached, numbered⟩ := of_add? added
    have fits : ¬last.number < t.number + d.nanos := by
      rw [← add?_eq_none_iff inCalendar, added]
      simp
    exact ⟨reached, by rw [Option.getD_some]; omega⟩

end Statbook.Timestamp
