import Statbook.Proofs.Calendar.Elapsed
import Statbook.Proofs.Calendar.Text
import Statbook.Proofs.Text.Bytes

/-!
# The order of timestamps and of their texts

Days are ordered by year, month and day, and times of a day by what a clock shows of them. The text
of a timestamp in SQL has these numbers one after another, each with as many digits as any other, so
texts are ordered as timestamps are, up to the nanoseconds that are cut off.
-/

namespace Statbook

open Decimal

namespace Date

theorem daysBeforeYear_mono {year year' : Int} (ordered : year ≤ year') :
    daysBeforeYear year ≤ daysBeforeYear year' := by
  simp only [daysBeforeYear]
  omega

/-- What comes before a later place includes the place itself. -/
theorem foldl_take_add_le_take {lengths : List Nat} {past past' : Nat} (later : past < past') :
    (lengths.take past).foldl (· + ·) 0 + lengths.getD past 0 ≤
      (lengths.take past').foldl (· + ·) 0 := by
  have within := @foldl_take_add_le (lengths.take past') past
  rwa [List.take_take, Nat.min_eq_left (Nat.le_of_lt later), List.getD_eq_getElem?_getD,
    List.getElem?_take_of_lt later, ← List.getD_eq_getElem?_getD] at within

theorem month_pos (d : Date) : 0 < d.month := by
  apply Nat.pos_of_ne_zero
  intro zero
  have some := d.day_mem
  rw [zero] at some
  exact absurd (Nat.le_trans some.1 some.2) (by simp [daysInMonth])

theorem daysInMonth_eq (d : Date) :
    daysInMonth d.year d.month = (monthLengths d.year).getD (d.month - 1) 0 :=
  if_neg (Nat.pos_iff_ne_zero.mp d.month_pos)

/-- A day lies within its year. -/
theorem dayNumber_mem_year (d : Date) :
    daysBeforeYear d.year ≤ d.dayNumber ∧ d.dayNumber < daysBeforeYear (d.year + 1) := by
  have inMonth := d.day_mem
  rw [d.daysInMonth_eq] at inMonth
  have inYear := @foldl_take_add_le (monthLengths d.year) (d.month - 1)
  rw [daysBeforeYear_succ]
  simp only [dayNumber, daysBeforeMonth]
  omega

/-- The days of a later year have greater numbers. -/
theorem dayNumber_lt_of_year_lt {d e : Date} (later : d.year < e.year) :
    d.dayNumber < e.dayNumber := by
  have ends := d.dayNumber_mem_year.2
  have begins := e.dayNumber_mem_year.1
  have between := daysBeforeYear_mono (show d.year + 1 ≤ e.year by omega)
  omega

/-- So have those of a later month. -/
theorem dayNumber_lt_of_month_lt {d e : Date} (same : d.year = e.year) (later : d.month < e.month) :
    d.dayNumber < e.dayNumber := by
  have inMonth := d.day_mem
  have inMonth' := e.day_mem
  have positive := d.month_pos
  rw [d.daysInMonth_eq, same] at inMonth
  have before := @foldl_take_add_le_take (monthLengths e.year) (d.month - 1) (e.month - 1)
    (by omega)
  simp only [dayNumber, daysBeforeMonth, same]
  omega

/-- Days are ordered by year, then by month, then within the month. -/
theorem dayNumber_lt_iff (d e : Date) : d.dayNumber < e.dayNumber ↔
    d.year < e.year ∨ d.year = e.year ∧
      (d.month < e.month ∨ d.month = e.month ∧ d.day < e.day) := by
  rcases Int.lt_trichotomy d.year e.year with year | year | year
  · have less := dayNumber_lt_of_year_lt year
    omega
  · rcases Nat.lt_trichotomy d.month e.month with month | month | month
    · have less := dayNumber_lt_of_month_lt year month
      omega
    · have years : daysBeforeYear d.year = daysBeforeYear e.year := congrArg daysBeforeYear year
      have months : daysBeforeMonth d.year d.month = daysBeforeMonth e.year e.month := by
        rw [year, month]
      unfold dayNumber
      omega
    · have greater := dayNumber_lt_of_month_lt year.symm month
      omega
  · have greater := dayNumber_lt_of_year_lt year
    omega

theorem dayNumber_injective {d e : Date} (same : d.dayNumber = e.dayNumber) : d = e := by
  have found := ofDayNumber?_dayNumber d
  rw [same, ofDayNumber?_dayNumber] at found
  exact (Option.some.inj found).symm

theorem dayNumber_eq_iff (d e : Date) : d.dayNumber = e.dayNumber ↔
    d.year = e.year ∧ d.month = e.month ∧ d.day = e.day := by
  constructor
  · intro same
    obtain rfl := dayNumber_injective same
    exact ⟨rfl, rfl, rfl⟩
  · rintro ⟨year, month, day⟩
    unfold dayNumber
    rw [year, month, day]

/-- The years whose numbers have four digits at most and no sign. -/
def Plain (d : Date) : Prop :=
  0 ≤ d.year ∧ d.year ≤ 9999

instance (d : Date) : Decidable d.Plain :=
  inferInstanceAs (Decidable (_ ∧ _))

end Date

namespace ClockTime

/-- The time with the digits of the second after the sixth cut off. -/
def truncated (t : ClockTime) : ClockTime where
  second := t.second
  nanos := t.nanos / 1000 * 1000
  second_lt := t.second_lt
  nanos_lt := Nat.lt_of_le_of_lt (Nat.div_mul_le_self _ _) t.nanos_lt

theorem hour_lt (t : ClockTime) : t.hour < 24 :=
  Nat.div_lt_of_lt_mul t.second_lt

theorem minute_lt (t : ClockTime) : t.minute < 60 :=
  Nat.mod_lt _ (by decide)

/-- The sixtieth second is the last that a clock shows. -/
theorem shownSecond_le (t : ClockTime) : t.shownSecond ≤ 60 := by
  have nanos := t.nanos_lt
  unfold shownSecond secondOfMinute
  unfold nanosPerSecond at *
  omega

theorem shownMicros_lt (t : ClockTime) : t.shownNanos / 1000 < 1000000 := by
  have shown : t.shownNanos < nanosPerSecond := Nat.mod_lt _ (by decide)
  unfold nanosPerSecond at shown
  omega

/-- Within a minute, the times of a clock face are ordered by the second and the microseconds that it
shows. A leap second is the sixtieth, so that its microseconds come after those of the second it
prolongs. -/
theorem shown_lt_iff {s t : ClockTime} (there : s.OnFace) (there' : t.OnFace) :
    (s.shownSecond < t.shownSecond ∨
      s.shownSecond = t.shownSecond ∧ s.shownNanos / 1000 < t.shownNanos / 1000) ↔
    s.secondOfMinute < t.secondOfMinute ∨
      s.secondOfMinute = t.secondOfMinute ∧ s.nanos / 1000 < t.nanos / 1000 := by
  have nanos := s.nanos_lt
  have nanos' := t.nanos_lt
  unfold OnFace at there there'
  unfold shownSecond shownNanos secondOfMinute at *
  unfold nanosPerSecond at *
  omega

/-- Times are ordered by the hour, the minute and the second before whatever counts within it. -/
theorem second_lt_iff (s t : ClockTime) (within : Prop) :
    (s.hour < t.hour ∨ s.hour = t.hour ∧ (s.minute < t.minute ∨ s.minute = t.minute ∧
      (s.secondOfMinute < t.secondOfMinute ∨ s.secondOfMinute = t.secondOfMinute ∧ within))) ↔
    s.second < t.second ∨ s.second = t.second ∧ within := by
  unfold hour minute secondOfMinute
  by_cases holds : within
  · simp only [holds, and_true]
    omega
  · simp only [holds, and_false, or_false]
    omega

end ClockTime

namespace Timestamp

/-- Timestamps are equal or one of them is earlier. -/
instance : LE Timestamp := ⟨fun s t => s < t ∨ s = t⟩

/-- The timestamp with the digits of the second after the sixth cut off. -/
def truncated (t : Timestamp) : Timestamp :=
  ⟨t.date, t.time.truncated⟩

/-- Whole microseconds have nothing to cut off. -/
theorem truncated_eq_self {t : Timestamp} (whole : t.time.nanos % 1000 = 0) : t.truncated = t := by
  have nanos : t.time.nanos / 1000 * 1000 = t.time.nanos := by omega
  obtain ⟨date, ⟨second, nanosBeyond, secondLt, nanosLt⟩⟩ := t
  simp only [truncated, ClockTime.truncated, nanos]

theorem lt_iff {s t : Timestamp} : s < t ↔
    s.date.dayNumber < t.date.dayNumber ∨ s.date.dayNumber = t.date.dayNumber ∧
      (s.time.second < t.time.second ∨
        s.time.second = t.time.second ∧ s.time.nanos < t.time.nanos) :=
  Iff.rfl

/-- Of two timestamps that are not equal one is earlier. -/
theorem le_iff_not_lt {s t : Timestamp} : s ≤ t ↔ ¬t < s := by
  rw [lt_iff]
  constructor
  · rintro (less | rfl) greater
    · rw [lt_iff] at less
      omega
    · omega
  · intro notGreater
    by_cases less : s < t
    · exact .inl less
    · right
      rw [lt_iff] at less
      have day : s.date = t.date := Date.dayNumber_injective (by omega)
      have second : s.time.second = t.time.second := by omega
      have nanos : s.time.nanos = t.time.nanos := by omega
      cases s with
      | mk date time =>
        cases t with
        | mk date' time' =>
          cases time
          cases time'
          simp only at day second nanos
          subst day second nanos
          rfl

/-- The numbers of a timestamp one after another. -/
theorem sqlChars_eq {t : Timestamp} (plain : t.date.Plain) : t.sqlChars =
    fixedDigits 4 t.date.year.toNat ++ '-' :: (fixedDigits 2 t.date.month ++
      '-' :: (fixedDigits 2 t.date.day ++ ' ' :: (fixedDigits 2 t.time.hour ++
        ':' :: (fixedDigits 2 t.time.minute ++ ':' :: (fixedDigits 2 t.time.shownSecond ++
          '.' :: (fixedDigits 6 (t.time.shownNanos / 1000) ++ [])))))) := by
  unfold sqlChars Date.chars ClockTime.faceChars
  rw [yearText_of_plain plain]
  simp only [List.append_assoc, List.cons_append, List.append_nil]

/-- The characters of two timestamps of a clock face are ordered as the timestamps are, up to what is
cut off. -/
theorem sqlChars_lt_iff {s t : Timestamp} (plain : s.date.Plain) (plain' : t.date.Plain)
    (there : s.time.OnFace) (there' : t.time.OnFace) :
    s.sqlChars < t.sqlChars ↔ s.truncated < t.truncated := by
  have year : s.date.year.toNat < 10 ^ 4 := by have := plain.2; omega
  have year' : t.date.year.toNat < 10 ^ 4 := by have := plain'.2; omega
  have month (d : Date) : d.month < 10 ^ 2 := Nat.lt_of_le_of_lt d.month_le (by decide)
  have day (d : Date) : d.day < 10 ^ 2 := Nat.lt_of_le_of_lt d.day_le (by decide)
  have hour (c : ClockTime) : c.hour < 10 ^ 2 := Nat.lt_trans c.hour_lt (by decide)
  have minute (c : ClockTime) : c.minute < 10 ^ 2 := Nat.lt_trans c.minute_lt (by decide)
  have second (c : ClockTime) : c.shownSecond < 10 ^ 2 :=
    Nat.lt_of_le_of_lt c.shownSecond_le (by decide)
  have micros (c : ClockTime) : c.shownNanos / 1000 < 10 ^ 6 := c.shownMicros_lt
  rw [sqlChars_eq plain, sqlChars_eq plain', fixedDigits_append_lt_iff year year']
  simp only [List.cons_lt_cons_self, fixedDigits_append_lt_iff (month _) (month _),
    fixedDigits_append_lt_iff (day _) (day _), fixedDigits_append_lt_iff (hour _) (hour _),
    fixedDigits_append_lt_iff (minute _) (minute _),
    fixedDigits_append_lt_iff (second _) (second _),
    fixedDigits_append_lt_iff (micros _) (micros _), List.lt_irrefl, and_false, or_false]
  rw [ClockTime.shown_lt_iff there there', ClockTime.second_lt_iff, lt_iff, Date.dayNumber_eq_iff,
    Date.dayNumber_lt_iff]
  have begun := plain.1
  have begun' := plain'.1
  simp only [truncated, ClockTime.truncated]
  omega

/-- The bytes of two timestamps are ordered as what a clock shows of them is, up to what is cut off. -/
theorem bytes_sqlText_le_iff {s t : Timestamp} (plain : s.date.Plain) (plain' : t.date.Plain) :
    Text.bytes s.sqlText ≤ Text.bytes t.sqlText ↔ s.shown.truncated ≤ t.shown.truncated := by
  have chars : t.shown.sqlChars < s.shown.sqlChars ↔ t.shown.truncated < s.shown.truncated :=
    sqlChars_lt_iff plain' plain t.time.onFace_shown s.time.onFace_shown
  rw [le_iff_not_lt, ← chars, sqlChars_shown, sqlChars_shown, ← List.not_lt, ← Text.lt_iff_bytes_lt]
  unfold sqlText
  rw [String.lt_iff, String.toList_ofList, String.toList_ofList]

end Timestamp

end Statbook
