import Mathlib.Tactic.ByContra
import Statbook.Calendar.Window
import Statbook.Proofs.Calendar.Order

/-!
# Windows partition the calendar

The days of the calendar are numbered without a gap from its first day to its last one. A window
holds all days that belong together, and no others: one day, the days from a Monday to the Sunday
after it, the days of a month or those of a year. So two windows of a kind are the same or have no
moment in common, and where one ends the next one starts.
-/

namespace Statbook

namespace Date

variable {d e : Date} {n : Int}

/-- The first day of the calendar. -/
def first : Date :=
  ⟨firstYear, 1, 1, by decide, by decide⟩

theorem daysBeforeYear_yearOfDayNumber (n : Int) :
    daysBeforeYear (yearOfDayNumber n) ≤ n ∧ n < daysBeforeYear (yearOfDayNumber n + 1) := by
  have before := daysBeforeYear_bounds (n * 400 / 146097)
  have after := daysBeforeYear_bounds (n * 400 / 146097 + 1 + 1 + 1)
  simp only [yearOfDayNumber]
  split
  · rw [Int.add_sub_cancel]
    omega
  · split <;> omega

/-- A place among months of these lengths lies in one of them. -/
theorem exists_place {lengths : List Nat} {rest : Nat} (within : rest < lengths.foldl (· + ·) 0) :
    ∃ past day, day < lengths.getD past 0 ∧ (lengths.take past).foldl (· + ·) 0 + day = rest := by
  induction lengths generalizing rest with
  | nil => exact absurd within (Nat.not_lt_zero rest)
  | cons length lengths ih =>
    by_cases here : rest < length
    · exact ⟨0, rest, here, Nat.zero_add rest⟩
    · rw [foldl_cons] at within
      obtain ⟨past, day, inMonth, place⟩ := @ih (rest - length) (by omega)
      refine ⟨past + 1, day, inMonth, ?_⟩
      rw [List.take_succ_cons, foldl_cons]
      omega

theorem dayNumber_first : first.dayNumber = daysBeforeYear firstYear := by
  decide

theorem dayNumber_last : last.dayNumber + 1 = daysBeforeYear (lastYear + 1) := by
  decide

theorem dayNumber_mem_calendar (d : Date) :
    first.dayNumber ≤ d.dayNumber ∧ d.dayNumber ≤ last.dayNumber := by
  have begins := daysBeforeYear_mono d.year_mem.1
  have ends := daysBeforeYear_mono (show d.year + 1 ≤ lastYear + 1 by have := d.year_mem.2; omega)
  have inYear := d.dayNumber_mem_year
  have final := dayNumber_last
  rw [dayNumber_first]
  omega

/-- The days of the calendar are numbered without a gap. -/
theorem exists_dayNumber_eq (begun : first.dayNumber ≤ n) (ends : n ≤ last.dayNumber) :
    ∃ d : Date, d.dayNumber = n := by
  obtain ⟨lower, upper⟩ := daysBeforeYear_yearOfDayNumber n
  have final := dayNumber_last
  rw [dayNumber_first] at begun
  generalize yearOfDayNumber n = year at lower upper
  have inCalendar : firstYear ≤ year ∧ year ≤ lastYear := by
    constructor
    · by_contra early
      have := daysBeforeYear_mono (show year + 1 ≤ firstYear by omega)
      omega
    · by_contra late
      have := daysBeforeYear_mono (show lastYear + 1 ≤ year by omega)
      omega
  rw [daysBeforeYear_succ] at upper
  obtain ⟨past, rest, inMonth, place⟩ :=
    @exists_place (monthLengths year) (n - daysBeforeYear year).toNat (by omega)
  refine ⟨⟨year, past + 1, rest + 1, inCalendar, Nat.le_add_left 1 rest, inMonth⟩, ?_⟩
  simp only [dayNumber, daysBeforeMonth, Nat.add_sub_cancel]
  omega

/-- A number finds the day that has it. -/
theorem ofDayNumber?_eq_some_iff : ofDayNumber? n = some d ↔ d.dayNumber = n := by
  constructor
  · intro found
    have inCalendar : firstYear ≤ yearOfDayNumber n ∧ yearOfDayNumber n ≤ lastYear := by
      by_contra outside
      simp [ofDayNumber?, of?, outside] at found
    have begins := daysBeforeYear_mono inCalendar.1
    have ends := daysBeforeYear_mono (show yearOfDayNumber n + 1 ≤ lastYear + 1 by omega)
    have inYear := daysBeforeYear_yearOfDayNumber n
    have final := dayNumber_last
    obtain ⟨e, numbered⟩ := @exists_dayNumber_eq n (by rw [dayNumber_first]; omega) (by omega)
    rw [← numbered, ofDayNumber?_dayNumber] at found
    rw [← Option.some.inj found, numbered]
  · rintro rfl
    exact ofDayNumber?_dayNumber d

theorem addDays?_eq_some_iff {days : Int} :
    d.addDays? days = some e ↔ e.dayNumber = d.dayNumber + days :=
  ofDayNumber?_eq_some_iff

/-- Days are added unless the calendar ends before. -/
theorem addDays?_eq_none_iff {days : Int} : d.addDays? days = none ↔
    d.dayNumber + days < first.dayNumber ∨ last.dayNumber < d.dayNumber + days := by
  constructor
  · intro missing
    by_contra inside
    obtain ⟨e, numbered⟩ := @exists_dayNumber_eq (d.dayNumber + days) (by omega) (by omega)
    rw [addDays?_eq_some_iff.mpr numbered] at missing
    cases missing
  · intro outside
    cases found : d.addDays? days with
    | none => rfl
    | some e =>
      have numbered := addDays?_eq_some_iff.mp found
      have := e.dayNumber_mem_calendar
      omega

theorem of?_eq_none_iff {year : Int} {month day : Nat} : of? year month day = none ↔
    ¬((firstYear ≤ year ∧ year ≤ lastYear) ∧ 1 ≤ day ∧ day ≤ daysInMonth year month) := by
  by_cases inCalendar : firstYear ≤ year ∧ year ≤ lastYear
  · by_cases inMonth : 1 ≤ day ∧ day ≤ daysInMonth year month <;> simp [of?, inCalendar, inMonth]
  · simp [of?, inCalendar]

/-- Every month of a year has a first day. -/
theorem daysInMonth_pos {year : Int} {month : Nat} (positive : 0 < month) (within : month ≤ 12) :
    0 < daysInMonth year month := by
  have short : 0 < if isLeapYear year = true then 29 else 28 := by split <;> decide
  unfold daysInMonth monthLengths
  match month with
  | 1 | 2 | 3 | 4 | 5 | 6 | 7 | 8 | 9 | 10 | 11 | 12 => simp [short]
  | 0 => exact absurd positive (Nat.lt_irrefl 0)
  | _ + 13 => omega

/-- The day with these numbers, which the calendar has. -/
theorem exists_of? {year : Int} {month day : Nat} (inCalendar : firstYear ≤ year ∧ year ≤ lastYear)
    (inMonth : 1 ≤ day ∧ day ≤ daysInMonth year month) :
    ∃ d, of? year month day = some d ∧ d.year = year ∧ d.month = month ∧ d.day = day := by
  refine ⟨⟨year, month, day, inCalendar, inMonth⟩, ?_, rfl, rfl, rfl⟩
  exact of?_eq_some_iff.mpr ⟨rfl, rfl, rfl⟩

/-- After the last month of the last year no month begins; any other is followed by one. -/
theorem firstOfNextMonth?_eq_none_iff (d : Date) :
    d.firstOfNextMonth? = none ↔ d.year = lastYear ∧ d.month = 12 := by
  have bounds := d.year_mem
  have within := d.month_le
  unfold firstOfNextMonth?
  split
  · next december =>
    have january : 0 < daysInMonth (d.year + 1) 1 := daysInMonth_pos (by decide) (by decide)
    rw [of?_eq_none_iff]
    omega
  · next other =>
    have next : 0 < daysInMonth d.year (d.month + 1) :=
      daysInMonth_pos (Nat.succ_pos _) (by omega)
    rw [of?_eq_none_iff]
    omega

/-- The days before the next month are those of this month or of an earlier one. -/
theorem lt_firstOfNextMonth? {next : Date} (found : d.firstOfNextMonth? = some next) (e : Date) :
    e.dayNumber < next.dayNumber ↔ e.year < d.year ∨ e.year = d.year ∧ e.month ≤ d.month := by
  have positive := e.day_mem.1
  have month := e.month_pos
  have within := e.month_le
  unfold firstOfNextMonth? at found
  rw [dayNumber_lt_iff]
  split at found
  · obtain ⟨yearEq, monthEq, dayEq⟩ := of?_eq_some_iff.mp found
    omega
  · obtain ⟨yearEq, monthEq, dayEq⟩ := of?_eq_some_iff.mp found
    omega

end Date

namespace Window

/-- The days that a window of this kind holds together. -/
def Together : Window → Date → Date → Prop
  | today, d, e => d = e
  | week, d, e => d.dayNumber / 7 = e.dayNumber / 7
  | month, d, e => d.year = e.year ∧ d.month = e.month
  | year, d, e => d.year = e.year

/-- Not all of the window around a day lies in the calendar: the Monday or the Sunday of its week
does not, or, in the last month, the first day of the next one, from which the end of a month is
found. -/
def Exceeds : Window → Date → Prop
  | week, d => 7 * (d.dayNumber / 7) < Date.first.dayNumber ∨
      Date.last.dayNumber < 7 * (d.dayNumber / 7) + 6
  | month, d => d.year = lastYear ∧ d.month = 12
  | today, _ | year, _ => False

/-- The days from `first` to `last` are those that a window holds together with `d`. -/
def Spans (window : Window) (d first last : Date) : Prop :=
  ∀ e : Date, first.dayNumber ≤ e.dayNumber ∧ e.dayNumber ≤ last.dayNumber ↔ window.Together e d

variable {window : Window} {d e f first last : Date}

theorem Together.refl (window : Window) (d : Date) : window.Together d d := by
  cases window <;> simp [Together]

theorem Together.symm (same : window.Together d e) : window.Together e d := by
  cases window <;> simp only [Together] at same ⊢ <;> simp [same]

theorem Together.trans (same : window.Together d e) (same' : window.Together e f) :
    window.Together d f := by
  cases window <;> simp only [Together] at same same' ⊢ <;> simp [same, same']

theorem spans_today (d : Date) : today.Spans d d d := by
  intro e
  show _ ↔ e = d
  constructor
  · intro within
    exact Date.dayNumber_injective (by omega)
  · rintro rfl
    omega

theorem cast_daysSinceMonday (d : Date) : (d.daysSinceMonday : Int) = d.dayNumber % 7 := by
  unfold Date.daysSinceMonday
  omega

theorem spans_week (monday : d.addDays? (-(d.daysSinceMonday : Int)) = some first)
    (sunday : first.addDays? 6 = some last) : week.Spans d first last := by
  rw [Date.addDays?_eq_some_iff, cast_daysSinceMonday] at monday
  rw [Date.addDays?_eq_some_iff] at sunday
  intro e
  show _ ↔ e.dayNumber / 7 = d.dayNumber / 7
  omega

theorem spans_month {next : Date} (found : Date.of? d.year d.month 1 = some first)
    (follows : first.firstOfNextMonth? = some next) (ends : next.addDays? (-1) = some last) :
    month.Spans d first last := by
  obtain ⟨yearEq, monthEq, dayEq⟩ := Date.of?_eq_some_iff.mp found
  rw [Date.addDays?_eq_some_iff] at ends
  intro e
  have before := Date.lt_firstOfNextMonth? follows e
  have after := Date.dayNumber_lt_iff e first
  have positive := e.day_mem.1
  show _ ↔ e.year = d.year ∧ e.month = d.month
  omega

theorem spans_year (begins : Date.of? d.year 1 1 = some first)
    (ends : Date.of? d.year 12 31 = some last) : year.Spans d first last := by
  obtain ⟨yearEq, monthEq, dayEq⟩ := Date.of?_eq_some_iff.mp begins
  obtain ⟨yearEq', monthEq', dayEq'⟩ := Date.of?_eq_some_iff.mp ends
  intro e
  have after := Date.dayNumber_lt_iff e first
  have before := Date.dayNumber_lt_iff last e
  have positive := e.day_mem.1
  have positive' := e.month_pos
  have within := e.day_le
  have within' := e.month_le
  show _ ↔ e.year = d.year
  omega

/-- A window is found with all days that belong to it. -/
theorem spans_of_days? (found : window.days? d = some (first, last)) :
    window.Spans d first last := by
  cases window with
  | today =>
    obtain ⟨rfl, rfl⟩ := Prod.mk.inj (Option.some.inj found)
    exact spans_today d
  | week =>
    obtain ⟨monday, begins, found⟩ := Option.bind_eq_some_iff.mp found
    obtain ⟨sunday, ends, found⟩ := Option.bind_eq_some_iff.mp found
    obtain ⟨rfl, rfl⟩ := Prod.mk.inj (Option.some.inj found)
    exact spans_week begins ends
  | month =>
    obtain ⟨start, begins, found⟩ := Option.bind_eq_some_iff.mp found
    obtain ⟨next, follows, found⟩ := Option.bind_eq_some_iff.mp found
    obtain ⟨stop, ends, found⟩ := Option.bind_eq_some_iff.mp found
    obtain ⟨rfl, rfl⟩ := Prod.mk.inj (Option.some.inj found)
    exact spans_month begins follows ends
  | year =>
    obtain ⟨start, begins, found⟩ := Option.bind_eq_some_iff.mp found
    obtain ⟨stop, ends, found⟩ := Option.bind_eq_some_iff.mp found
    obtain ⟨rfl, rfl⟩ := Prod.mk.inj (Option.some.inj found)
    exact spans_year begins ends

theorem days?_week_eq_none_iff (d : Date) : week.days? d = none ↔ week.Exceeds d := by
  show ((d.addDays? (-(d.daysSinceMonday : Int))).bind fun monday =>
    (monday.addDays? 6).bind fun sunday => some (monday, sunday)) = none ↔
      7 * (d.dayNumber / 7) < Date.first.dayNumber ∨
        Date.last.dayNumber < 7 * (d.dayNumber / 7) + 6
  have inCalendar := d.dayNumber_mem_calendar
  cases begins : d.addDays? (-(d.daysSinceMonday : Int)) with
  | none =>
    rw [Date.addDays?_eq_none_iff, cast_daysSinceMonday] at begins
    simp only [Option.bind_none, true_iff]
    omega
  | some monday =>
    rw [Date.addDays?_eq_some_iff, cast_daysSinceMonday] at begins
    have mondayInCalendar := monday.dayNumber_mem_calendar
    rw [Option.bind_some]
    cases ends : monday.addDays? 6 with
    | none =>
      rw [Date.addDays?_eq_none_iff] at ends
      simp only [Option.bind_none, true_iff]
      omega
    | some sunday =>
      rw [Date.addDays?_eq_some_iff] at ends
      have sundayInCalendar := sunday.dayNumber_mem_calendar
      simp only [Option.bind_some, reduceCtorEq, false_iff]
      omega

theorem days?_month_eq_none_iff (d : Date) : month.days? d = none ↔ month.Exceeds d := by
  obtain ⟨first, begins, yearEq, monthEq, -⟩ := Date.exists_of? d.year_mem
    (show 1 ≤ 1 ∧ 1 ≤ daysInMonth d.year d.month by have := d.day_mem; omega)
  have follows := first.firstOfNextMonth?_eq_none_iff
  rw [yearEq, monthEq] at follows
  show ((Date.of? d.year d.month 1).bind fun first => first.firstOfNextMonth?.bind fun next =>
    (next.addDays? (-1)).bind fun last => some (first, last)) = none ↔
      d.year = lastYear ∧ d.month = 12
  rw [begins, Option.bind_some, ← follows]
  cases found : first.firstOfNextMonth? with
  | none => simp
  | some next =>
    have before := (Date.lt_firstOfNextMonth? found first).mpr (.inr ⟨rfl, Nat.le_refl _⟩)
    have inCalendar := first.dayNumber_mem_calendar
    have nextInCalendar := next.dayNumber_mem_calendar
    rw [Option.bind_some]
    cases ends : next.addDays? (-1) with
    | none =>
      rw [Date.addDays?_eq_none_iff] at ends
      omega
    | some last => simp

theorem days?_year_ne_none (d : Date) : year.days? d ≠ none := by
  obtain ⟨first, begins, -⟩ :=
    @Date.exists_of? d.year 1 1 d.year_mem ⟨Nat.le_refl 1, show 1 ≤ 31 by decide⟩
  obtain ⟨last, ends, -⟩ :=
    @Date.exists_of? d.year 12 31 d.year_mem ⟨by decide, Nat.le_refl 31⟩
  simp [days?, begins, ends]

/-- A window is found unless the calendar ends within it. -/
theorem days?_eq_none_iff (window : Window) (d : Date) :
    window.days? d = none ↔ window.Exceeds d := by
  cases window with
  | today => simp [days?, Exceeds]
  | week => exact days?_week_eq_none_iff d
  | month => exact days?_month_eq_none_iff d
  | year => simp [days?_year_ne_none, Exceeds]

/-- The ends of a window and every day between them belong to it. -/
theorem Spans.mem (spans : window.Spans d first last) :
    first.dayNumber ≤ d.dayNumber ∧ d.dayNumber ≤ last.dayNumber ∧
      window.Together first d ∧ window.Together last d := by
  obtain ⟨begun, ends⟩ := (spans d).mpr (.refl window d)
  have within := Int.le_trans begun ends
  exact ⟨begun, ends, (spans first).mp ⟨Int.le_refl _, within⟩,
    (spans last).mp ⟨within, Int.le_refl _⟩⟩

/-- Days that belong together have the same window. -/
theorem Spans.eq_of_together {first' last' : Date} (spans : window.Spans d first last)
    (spans' : window.Spans e first' last') (same : window.Together d e) :
    first = first' ∧ last = last' := by
  obtain ⟨-, -, starts, stops⟩ := spans.mem
  obtain ⟨-, -, starts', stops'⟩ := spans'.mem
  have inLast := (spans' first).mpr (starts.trans same)
  have inLast' := (spans' last).mpr (stops.trans same)
  have inFirst := (spans first').mpr (starts'.trans same.symm)
  have inFirst' := (spans last').mpr (stops'.trans same.symm)
  exact ⟨Date.dayNumber_injective (by omega), Date.dayNumber_injective (by omega)⟩

/-- Where a window ends the next one starts. -/
theorem Spans.first_eq_of_follows {next first' last' : Date} (spans : window.Spans d first last)
    (spans' : window.Spans next first' last') (follows : next.dayNumber = last.dayNumber + 1) :
    first' = next := by
  obtain ⟨begun, -, -, stops⟩ := spans.mem
  obtain ⟨begun', ends', -⟩ := spans'.mem
  apply Date.dayNumber_injective
  by_contra earlier
  -- The last day of the one would lie in the other, and so would the day after it in the first.
  have shared := (spans' last).mp (by omega)
  have inside := (spans next).mpr (shared.symm.trans stops)
  omega

/-- The moments of a window are those of its days, up to the last microsecond of each. -/
theorem mem_days {t : Timestamp} (after : Timestamp.startOf first ≤ t)
    (before : t ≤ Timestamp.endOf last) :
    first.dayNumber ≤ t.date.dayNumber ∧ t.date.dayNumber ≤ last.dayNumber := by
  rw [Timestamp.le_iff_not_lt, Timestamp.lt_iff] at after before
  simp only [Timestamp.startOf, Timestamp.endOf] at after before
  omega

theorem bounds?_eq_some_iff {now start stop : Timestamp} :
    window.bounds? now = some (start, stop) ↔ ∃ first last,
      window.days? now.date = some (first, last) ∧ .startOf first = start ∧ .endOf last = stop := by
  simp [bounds?, Option.map_eq_some_iff]

/-- The window around a moment starts at 00:00:00 of one day and stops at 23:59:59.999999 of another.
From the one to the other it holds exactly the days that belong together with the day of the moment,
that day included; there is none just if it exceeds the calendar. Two windows of a kind are the same or
have no moment in common, and the day after a window starts the next one. -/
theorem windows_partition (window : Window) (now : Timestamp) :
    (window.bounds? now = none ↔ window.Exceeds now.date) ∧
    ∀ start stop, window.bounds? now = some (start, stop) →
      (start.time.second = 0 ∧ start.time.nanos = 0) ∧
      (stop.time.second = 23 * 3600 + 59 * 60 + 59 ∧ stop.time.nanos = 999999 * 1000) ∧
      (∀ d : Date, start.date.dayNumber ≤ d.dayNumber ∧ d.dayNumber ≤ stop.date.dayNumber ↔
        window.Together d now.date) ∧
      (start.date.dayNumber ≤ now.date.dayNumber ∧ now.date.dayNumber ≤ stop.date.dayNumber) ∧
      (∀ now' start' stop', window.bounds? now' = some (start', stop') →
        start' = start ∧ stop' = stop ∨
          ∀ t, ¬((start ≤ t ∧ t ≤ stop) ∧ start' ≤ t ∧ t ≤ stop')) ∧
      ∀ now' start' stop', now'.date.dayNumber = stop.date.dayNumber + 1 →
        window.bounds? now' = some (start', stop') → start'.date = now'.date := by
  refine ⟨by simp [bounds?, days?_eq_none_iff], fun start stop found => ?_⟩
  obtain ⟨first, last, days, rfl, rfl⟩ := bounds?_eq_some_iff.mp found
  have spans := spans_of_days? days
  refine ⟨⟨rfl, rfl⟩, ⟨rfl, rfl⟩, spans, ⟨spans.mem.1, spans.mem.2.1⟩, ?_, ?_⟩
  · intro now' start' stop' found'
    obtain ⟨first', last', days', rfl, rfl⟩ := bounds?_eq_some_iff.mp found'
    have spans' := spans_of_days? days'
    by_cases same : window.Together now'.date now.date
    · obtain ⟨rfl, rfl⟩ := spans'.eq_of_together spans same
      exact .inl ⟨rfl, rfl⟩
    · right
      rintro t ⟨⟨after, before⟩, after', before'⟩
      have shared := (spans t.date).mp (mem_days after before)
      have shared' := (spans' t.date).mp (mem_days after' before')
      exact same (shared'.symm.trans shared)
  · intro now' start' stop' follows found'
    obtain ⟨first', last', days', rfl, rfl⟩ := bounds?_eq_some_iff.mp found'
    exact spans.first_eq_of_follows (spans_of_days? days') follows

/-- The morning of a Friday. -/
def fridayMorning : Timestamp :=
  ⟨⟨2021, 10, 15, by decide, by decide⟩, ⟨34200, 0, by decide, ClockTime.nanos_zero_lt⟩⟩

/-- Its week is from Monday the 11th to Sunday the 17th, and no other day has that week. -/
theorem week_of_fridayMorning : ∃ start stop, week.bounds? fridayMorning = some (start, stop) ∧
    start = ⟨⟨2021, 10, 11, by decide, by decide⟩, ⟨0, 0, by decide, by decide⟩⟩ ∧
    stop = ⟨⟨2021, 10, 17, by decide, by decide⟩, ⟨86399, 999999000, by decide, by decide⟩⟩ ∧
    ∀ d : Date, week.Together d fridayMorning.date →
      start.date.dayNumber ≤ d.dayNumber ∧ d.dayNumber ≤ stop.date.dayNumber := by
  refine ⟨_, _, rfl, by decide, by decide, ?_⟩
  obtain ⟨-, -, spans, -⟩ := (windows_partition week fridayMorning).2 _ _ rfl
  exact fun d together => (spans d).mpr together

/-- The last day of the calendar is a Monday, and the rest of its week lies beyond. -/
example : week.bounds? (.endOf .last) = none := by decide

end Window

end Statbook
