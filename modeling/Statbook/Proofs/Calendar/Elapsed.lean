import Statbook.Calendar.Timestamp

/-!
# Days by their numbers, and no time at all

Every day is found again by its number: the year by the mean length of a year, the month by the
lengths of the months before it. So time goes nowhere from a moment when nothing is added, within a
leap second or not.
-/

namespace Statbook

namespace Date

/-- The mean length of a year tells the days before a year up to two of them. -/
theorem daysBeforeYear_bounds (year : Int) :
    146097 * (year - 1) - 699 ≤ 400 * daysBeforeYear year ∧
      400 * daysBeforeYear year ≤ 146097 * (year - 1) + 396 := by
  simp only [daysBeforeYear]
  omega

theorem foldl_monthLengths (year : Int) :
    (monthLengths year).foldl (· + ·) 0 = if isLeapYear year then 366 else 365 := by
  unfold monthLengths
  split <;> rfl

/-- A year is as long as its months. -/
theorem daysBeforeYear_succ (year : Int) :
    daysBeforeYear (year + 1) =
      daysBeforeYear year + ((monthLengths year).foldl (· + ·) 0 : Nat) := by
  have leap : isLeapYear year = true ↔ year % 4 = 0 ∧ (year % 100 ≠ 0 ∨ year % 400 = 0) := by
    simp [isLeapYear]
  rw [foldl_monthLengths]
  simp only [daysBeforeYear]
  split
  · next long =>
    rw [leap] at long
    omega
  · next short =>
    rw [leap] at short
    omega

/-- The year of a day is the one that begins last before it. -/
theorem yearOfDayNumber_eq {n year : Int} (begun : daysBeforeYear year ≤ n)
    (goesOn : n < daysBeforeYear (year + 1)) : yearOfDayNumber n = year := by
  have lower := (daysBeforeYear_bounds year).1
  have upper := (daysBeforeYear_bounds (year + 1)).2
  have guess : n * 400 / 146097 + 1 = year ∨ n * 400 / 146097 + 1 = year - 1 := by
    omega
  simp only [yearOfDayNumber]
  rcases guess with guess | guess
  · rw [guess, if_neg (by omega), if_pos goesOn]
  · have before := daysBeforeYear_succ (year - 1)
    rw [Int.sub_add_cancel] at before
    rw [guess, Int.sub_add_cancel, if_neg (by omega), if_neg (by omega)]

theorem foldl_cons (length : Nat) (lengths : List Nat) :
    (length :: lengths).foldl (· + ·) 0 = length + lengths.foldl (· + ·) 0 := by
  rw [List.foldl_cons, Nat.add_comm 0 length]
  exact List.foldl_assoc

/-- The month that a day is found in comes after those whose days all lie before it. -/
theorem monthAndDay_of_before {lengths : List Nat} (month past rest : Nat)
    (within : rest < lengths.getD past 0) :
    monthAndDay lengths month ((lengths.take past).foldl (· + ·) 0 + rest) =
      (month + past, rest + 1) := by
  induction lengths generalizing month past with
  | nil => exact absurd within (Nat.not_lt_zero rest)
  | cons length lengths ih =>
    cases past with
    | zero =>
      have first : rest < length := within
      simp [monthAndDay, first]
    | succ past =>
      have later := ih (month + 1) past within
      have after (before : Nat) : length + before + rest - length = before + rest := by omega
      rw [List.take_succ_cons, foldl_cons, monthAndDay, if_neg (by omega), after, later,
        Nat.add_right_comm]
      rfl

theorem foldl_take_add_le {lengths : List Nat} (past : Nat) :
    (lengths.take past).foldl (· + ·) 0 + lengths.getD past 0 ≤ lengths.foldl (· + ·) 0 := by
  induction lengths generalizing past with
  | nil => simp
  | cons length lengths ih =>
    rw [foldl_cons]
    cases past with
    | zero => exact Nat.le_trans (Nat.le_of_eq (Nat.zero_add length)) (Nat.le_add_right ..)
    | succ past =>
      have later := ih past
      rw [List.take_succ_cons, foldl_cons, List.getD_cons_succ]
      omega

/-- A day is found again by its number. -/
theorem ofDayNumber?_dayNumber (d : Date) : ofDayNumber? d.dayNumber = some d := by
  obtain ⟨year, month, day, inCalendar, inMonth⟩ := d
  obtain ⟨past, rfl⟩ : ∃ past, month = past + 1 := by
    cases month with
    | zero => exact absurd (Nat.le_trans inMonth.1 inMonth.2) (by simp [daysInMonth])
    | succ past => exact ⟨past, rfl⟩
  obtain ⟨rest, rfl⟩ : ∃ rest, day = rest + 1 := ⟨day - 1, by omega⟩
  have within : rest < (monthLengths year).getD past 0 := inMonth.2
  have number : dayNumber ⟨year, past + 1, rest + 1, inCalendar, inMonth⟩ =
      daysBeforeYear year + (((monthLengths year).take past).foldl (· + ·) 0 + rest : Nat) := by
    simp only [dayNumber, daysBeforeMonth, Nat.add_sub_cancel]
    omega
  have inYear := @foldl_take_add_le (monthLengths year) past
  have found : yearOfDayNumber (daysBeforeYear year +
      (((monthLengths year).take past).foldl (· + ·) 0 + rest : Nat)) = year :=
    yearOfDayNumber_eq (by omega) (by rw [daysBeforeYear_succ]; omega)
  have offset (before after : Int) : before + after - before = after := by omega
  rw [ofDayNumber?, number, found, offset, Int.toNat_natCast,
    monthAndDay_of_before 1 past rest within, Nat.add_comm 1 past]
  simp only [of?, dif_pos inCalendar, dif_pos inMonth]

/-- No days later it is the same day. -/
theorem addDays?_zero (d : Date) : d.addDays? 0 = some d := by
  rw [addDays?, Int.add_zero, ofDayNumber?_dayNumber]

end Date

namespace Timestamp

theorem carry?_of_lt (date : Date) {time : ClockTime} (plain : time.nanos < nanosPerSecond) :
    carry? date time.second time.nanos = some ⟨date, time⟩ := by
  have inDay := time.second_lt
  simp only [carry?, Nat.div_eq_of_lt plain, Nat.mod_eq_of_lt plain, Nat.add_zero,
    Nat.div_eq_of_lt inDay, Nat.mod_eq_of_lt inDay]
  rw [show ((0 : Nat) : Int) = 0 from rfl, Date.addDays?_zero]
  simp [ClockTime.of?, inDay, time.nanos_lt]

/-- Time goes nowhere when nothing is added. -/
theorem addSaturating_of_zero {span : Duration} (none : span.nanos = 0) (t : Timestamp) :
    t.addSaturating span = t := by
  have short : ¬longestStep < span.nanos := by omega
  have seconds : span.seconds = 0 := by simp [Duration.seconds, none]
  have subsecond : span.subsecond = 0 := by simp [Duration.subsecond, none]
  unfold addSaturating add?
  rw [if_neg short, none, seconds, subsecond]
  simp only [Nat.add_zero]
  cases leap : t.time.isLeap with
  | true =>
    have atMost : t.time.nanos < 2 * nanosPerSecond := t.time.nanos_lt
    have time : ClockTime.of? t.time.second t.time.nanos = some t.time := by
      simp [ClockTime.of?, t.time.second_lt, t.time.nanos_lt]
    simp [atMost, time]
  | false =>
    have plain : t.time.nanos < nanosPerSecond := by
      simpa [ClockTime.isLeap] using leap
    simp [carry?_of_lt t.date plain]

end Timestamp

end Statbook
