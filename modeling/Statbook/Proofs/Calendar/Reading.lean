import Mathlib.Data.List.TakeWhile
import Statbook.Calendar.Reader
import Statbook.Proofs.Calendar.Order

/-!
# Reading back dates and timestamps

The readers take from a text what was written into it, number by number. A date is read back as it
was, and a timestamp up to the microsecond as a clock shows it, leap seconds at the end of a minute
and years with a sign included.
-/

namespace Statbook

open Decimal

theorem not_isBlank_of_isDigit {c : Char} (digit : isDigit c) : Text.isBlank c = false := by
  have low : '0'.toNat ≤ c.toNat := by
    simp only [isDigit, Bool.and_eq_true, decide_eq_true_eq] at digit
    exact digit.1
  have high : c.toNat ≤ '9'.toNat := by
    simp only [isDigit, Bool.and_eq_true, decide_eq_true_eq] at digit
    exact digit.2
  have low : 48 ≤ c.toNat := low
  have high : c.toNat ≤ 57 := high
  simp only [Text.isBlank]
  simp
  omega

theorem not_sign_of_isDigit {c : Char} (digit : isDigit c) : c ≠ '-' ∧ c ≠ '+' := by
  constructor
  · rintro rfl
    cases digit
  · rintro rfl
    cases digit

/-- Digits of some width start with one. -/
theorem exists_fixedDigits_eq_cons (width n : Nat) (positive : 0 < width) :
    ∃ c ds, fixedDigits width n = c :: ds ∧ isDigit c := by
  cases digits : fixedDigits width n with
  | nil =>
    have length := length_fixedDigits width n
    rw [digits] at length
    exact absurd positive (by simp [← length])
  | cons c ds =>
    exact ⟨c, ds, rfl, isDigit_of_mem_fixedDigits (digits ▸ List.mem_cons_self)⟩

theorem isEmpty_fixedDigits (width n : Nat) (positive : 0 < width) :
    (fixedDigits width n).isEmpty = false := by
  obtain ⟨c, ds, digits, -⟩ := exists_fixedDigits_eq_cons width n positive
  rw [digits]
  rfl

/-- No blanks are skipped before digits. -/
theorem skipBlanks_fixedDigits {width : Nat} (n : Nat) (positive : 0 < width) (rest : List Char) :
    Text.skipBlanks (fixedDigits width n ++ rest) = fixedDigits width n ++ rest := by
  obtain ⟨c, ds, digits, digit⟩ := exists_fixedDigits_eq_cons width n positive
  rw [digits]
  exact List.dropWhile_cons_of_neg (by simp [not_isBlank_of_isDigit digit])

namespace CalendarReader

variable {width n : Nat}

/-- Digits are read as the number they write, if they are as many as may be or something else
follows. -/
theorem digitRun_append {ds rest : List Char} (nonempty : ds ≠ []) (kind : ∀ c ∈ ds, isDigit c)
    (fits : ds.length ≤ width) (stops : ds.length = width ∨ ∀ c ∈ rest.head?, ¬isDigit c) :
    digitRun width (ds ++ rest) = some (foldDigits 0 ds, rest) := by
  have front : ((ds ++ rest).take width).takeWhile isDigit = ds := by
    rw [List.take_append, List.take_of_length_le fits]
    apply Text.takeWhile_run kind
    intro c member
    rcases stops with full | stops
    · simp [full] at member
    · rw [List.head?_take] at member
      split at member
      · cases member
      · exact stops c member
  have back : (ds ++ rest).drop ds.length = rest := List.drop_left
  simp only [digitRun, front, List.isEmpty_eq_false_iff.mpr nonempty, back, Bool.false_eq_true,
    if_false]

/-- A run of digits is read back as the number. -/
theorem digitRun_fixedDigits (positive : 0 < width) (fits : n < 10 ^ width) (rest : List Char) :
    digitRun width (fixedDigits width n ++ rest) = some (n, rest) := by
  have length := length_fixedDigits width n
  have nonempty := List.isEmpty_eq_false_iff.mp (isEmpty_fixedDigits width n positive)
  rw [digitRun_append nonempty (fun _ => isDigit_of_mem_fixedDigits) (Nat.le_of_eq length)
    (.inl length), foldDigits_fixedDigits, Nat.mod_eq_of_lt fits]

theorem field_fixedDigits (fits : n < 10 ^ 2) (rest : List Char) :
    field (fixedDigits 2 n ++ rest) = some (n, rest) := by
  rw [field, skipBlanks_fixedDigits n (by decide), digitRun_fixedDigits (by decide) fits]

theorem year_fixedDigits (fits : n < 10 ^ 4) (rest : List Char) :
    year (fixedDigits 4 n ++ rest) = some ((n : Int), rest) := by
  have read := digitRun_fixedDigits (by decide) fits rest
  unfold year
  rw [skipBlanks_fixedDigits n (by decide)]
  obtain ⟨c, ds, digits, digit⟩ := exists_fixedDigits_eq_cons 4 n (by decide)
  rw [digits, List.cons_append] at read ⊢
  simp only
  split
  · next signed => exact absurd (List.cons.inj signed).1 (not_sign_of_isDigit digit).1
  · next signed => exact absurd (List.cons.inj signed).1 (not_sign_of_isDigit digit).2
  · rw [read]
    rfl

theorem paddedDigits_ne_nil (width n : Nat) : paddedDigits width n ≠ [] := by
  simp [paddedDigits, digits_ne_nil]

/-- A year is read back from its text with a hyphen behind it, as a year with a sign may have any
number of digits. -/
theorem year_yearText (y : Int) (rest : List Char) :
    year (yearText y ++ '-' :: rest) = some (y, '-' :: rest) := by
  by_cases plain : 0 ≤ y ∧ y ≤ 9999
  · rw [yearText_of_plain plain, year_fixedDigits (by omega), Int.toNat_of_nonneg plain.1]
  · obtain ⟨sign, marked, text⟩ := yearText_of_signed plain
    have run : digitRun (paddedDigits 4 y.natAbs ++ '-' :: rest).length
        (paddedDigits 4 y.natAbs ++ '-' :: rest) = some (y.natAbs, '-' :: rest) := by
      rw [digitRun_append (paddedDigits_ne_nil 4 _) (fun _ => isDigit_of_mem_paddedDigits)
        (by simp), foldDigits_paddedDigits]
      right
      rintro c ⟨⟩
      decide
    rw [text, List.cons_append]
    rcases marked with ⟨rfl, negative⟩ | ⟨rfl, positive⟩
    · have start (cs : List Char) : Text.skipBlanks ('-' :: cs) = '-' :: cs := rfl
      simp only [year, start, run, Option.map_some, Option.some.injEq, Prod.mk.injEq, and_true]
      omega
    · have start (cs : List Char) : Text.skipBlanks ('+' :: cs) = '+' :: cs := rfl
      simp only [year, start, run, Option.map_some, Option.some.injEq, Prod.mk.injEq, and_true]
      omega

theorem mark_cons (c : Char) (rest : List Char) : mark c (c :: rest) = some rest :=
  if_pos rfl

/-- A date is read back from its characters, whatever follows them. -/
theorem date_chars (d : Date) (rest : List Char) : date (d.chars ++ rest) = some (d, rest) := by
  have month : d.month < 10 ^ 2 := Nat.lt_of_le_of_lt d.month_le (by decide)
  have day : d.day < 10 ^ 2 := Nat.lt_of_le_of_lt d.day_le (by decide)
  have there : Date.of? d.year d.month d.day = some d := Date.of?_eq_some_iff.mpr ⟨rfl, rfl, rfl⟩
  unfold Date.chars
  simp only [List.append_assoc, List.cons_append, date, year_yearText, mark_cons,
    field_fixedDigits month, field_fixedDigits day, Option.bind_eq_bind, Option.bind_some, there,
    Option.pure_def]

/-- Six digits of the second are microseconds. -/
theorem fraction_fixedDigits (fits : n < 10 ^ 6) :
    fraction ('.' :: fixedDigits 6 n) = some (n * 1000, []) := by
  have length := length_fixedDigits 6 n
  have kind : ∀ c ∈ fixedDigits 6 n, isDigit c := fun _ => isDigit_of_mem_fixedDigits
  have front : (fixedDigits 6 n).take 9 = fixedDigits 6 n :=
    List.take_of_length_le (by rw [length]; decide)
  simp only [fraction, front, List.takeWhile_eq_self_iff.mpr kind,
    isEmpty_fixedDigits 6 n (by decide), length, foldDigits_fixedDigits, Nat.mod_eq_of_lt fits,
    Bool.false_eq_true, if_false,
    List.drop_eq_nil_of_le (Nat.le_of_eq length), List.dropWhile_nil]

/-- A time of the clock face is found at its hour, minute and second. -/
theorem ofFace?_eq {t : ClockTime} (there : t.OnFace) :
    ClockTime.ofFace? t.hour t.minute t.secondOfMinute t.nanos = some t := by
  have onFace : t.hour < 24 ∧ t.minute < 60 ∧ t.secondOfMinute < 60 ∧
      (t.nanos < nanosPerSecond ∨ t.secondOfMinute = 59) :=
    ⟨t.hour_lt, t.minute_lt, Nat.mod_lt _ (by decide), there⟩
  have total : t.hour * 3600 + t.minute * 60 + t.secondOfMinute = t.second := by
    unfold ClockTime.hour ClockTime.minute ClockTime.secondOfMinute
    omega
  rw [ClockTime.ofFace?, if_pos onFace, total]
  simp only [ClockTime.of?, dif_pos t.second_lt, dif_pos t.nanos_lt]

/-- What a clock shows of a time of its face is that time up to the microsecond. A sixtieth second is a
leap second. -/
theorem ofFace?_truncated {t : ClockTime} (there : t.OnFace) :
    (if t.shownSecond = 60 then
      ClockTime.ofFace? t.hour t.minute 59 (t.shownNanos / 1000 * 1000 + nanosPerSecond)
    else ClockTime.ofFace? t.hour t.minute t.shownSecond (t.shownNanos / 1000 * 1000)) =
      some t.truncated := by
  have nanos := t.nanos_lt
  have inMinute : t.secondOfMinute < 60 := Nat.mod_lt _ (by decide)
  have kept := ofFace?_eq (there.imp (Nat.lt_of_le_of_lt (Nat.div_mul_le_self _ _)) id :
    t.truncated.OnFace)
  by_cases leap : nanosPerSecond ≤ t.nanos
  · have second : t.truncated.secondOfMinute = 59 := there.resolve_left (Nat.not_lt.mpr leap)
    have second' : t.secondOfMinute = 59 := second
    have shown : t.shownSecond = 60 := by
      unfold ClockTime.shownSecond
      unfold nanosPerSecond at *
      omega
    have micros : t.shownNanos / 1000 * 1000 + nanosPerSecond = t.truncated.nanos := by
      show t.nanos % nanosPerSecond / 1000 * 1000 + nanosPerSecond = t.nanos / 1000 * 1000
      unfold nanosPerSecond at *
      omega
    rw [if_pos shown, micros, ← second]
    exact kept
  · have shown : t.shownSecond = t.secondOfMinute := by
      rw [ClockTime.shownSecond, Nat.div_eq_of_lt (Nat.lt_of_not_le leap), Nat.add_zero]
    have micros : t.shownNanos = t.nanos := Nat.mod_eq_of_lt (Nat.lt_of_not_le leap)
    rw [if_neg (by omega), shown, micros]
    exact kept

/-- So what a clock shows of any time is what is shown in its place. -/
theorem ofFace?_shown (t : ClockTime) :
    (if t.shownSecond = 60 then
      ClockTime.ofFace? t.hour t.minute 59 (t.shownNanos / 1000 * 1000 + nanosPerSecond)
    else ClockTime.ofFace? t.hour t.minute t.shownSecond (t.shownNanos / 1000 * 1000)) =
      some t.shown.truncated := by
  have shown := ofFace?_truncated t.onFace_shown
  obtain ⟨hour, minute, second, nanos⟩ := t.face_shown
  rwa [hour, minute, second, nanos] at shown

/-- A time of a day is read back from its characters up to the microsecond. -/
theorem clockTime_faceChars (t : ClockTime) :
    clockTime (t.faceChars ++ '.' :: fixedDigits 6 (t.shownNanos / 1000)) =
      some (t.shown.truncated, []) := by
  have hour : t.hour < 10 ^ 2 := Nat.lt_trans t.hour_lt (by decide)
  have minute : t.minute < 10 ^ 2 := Nat.lt_trans t.minute_lt (by decide)
  have second : t.shownSecond < 10 ^ 2 := Nat.lt_of_le_of_lt t.shownSecond_le (by decide)
  have shown := ofFace?_shown t
  unfold ClockTime.faceChars
  simp only [List.append_assoc, List.cons_append, clockTime, field_fixedDigits hour, mark_cons,
    field_fixedDigits minute, field_fixedDigits second, fraction_fixedDigits t.shownMicros_lt,
    Option.bind_eq_bind, Option.bind_some, Option.pure_def]
  split at shown
  · next leap => simp only [leap, if_true, shown, Option.bind_some]
  · next plain => simp only [plain, if_false, shown, Option.bind_some]

/-- A date and a time of it are read back from their characters up to the microsecond. -/
theorem timestamp_sqlChars (t : Timestamp) :
    timestamp (fun cs => some (Text.skipBlanks cs)) t.sqlChars = some (t.shown.truncated, []) := by
  have skipped (cs : List Char) :
      Text.skipBlanks (' ' :: (t.time.faceChars ++ cs)) = t.time.faceChars ++ cs := by
    unfold ClockTime.faceChars
    simp only [List.append_assoc]
    exact skipBlanks_fixedDigits t.time.hour (by decide) _
  unfold Timestamp.sqlChars
  simp only [List.append_assoc, List.cons_append, timestamp, date_chars, skipped,
    clockTime_faceChars, Option.bind_eq_bind, Option.bind_some, Option.pure_def]
  rfl

end CalendarReader

/-- The characters of a date are read as the date. -/
theorem Date.read?_chars (d : Date) : Date.read? d.chars = some d := by
  have read := CalendarReader.date_chars d []
  rw [List.append_nil] at read
  rw [Date.read?, CalendarReader.whole, read]

/-- The characters of a timestamp are not those of a date. -/
theorem Date.read?_sqlChars (t : Timestamp) : Date.read? t.sqlChars = none := by
  unfold Timestamp.sqlChars
  rw [List.append_assoc, Date.read?, CalendarReader.whole, CalendarReader.date_chars]
  rfl

/-- They are read as the timestamp that a clock shows, up to the microsecond. -/
theorem Timestamp.read?_sqlChars (t : Timestamp) :
    Timestamp.read? t.sqlChars = some t.shown.truncated := by
  rw [Timestamp.read?, CalendarReader.whole, CalendarReader.timestamp_sqlChars]
  rfl

end Statbook
