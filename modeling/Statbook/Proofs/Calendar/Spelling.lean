import Mathlib.Data.List.DropRight
import Mathlib.Data.List.TakeWhile
import Statbook.Proofs.Calendar.Reading

/-!
# How dates and timestamps may be written

The readers of the calendar take more than what the library writes: numbers of fewer digits, years
with a needless sign, blanks before numbers, and nothing at all between a day and an hour. Each way
of writing a value is judged with the characters behind it at hand, as a number takes in all the
digits it can. A reader takes just what is written in one of these ways.
-/

namespace Statbook

open Decimal

/-- One to `width` digits write `n` before `rest`, and no further digit could be taken. -/
structure DigitRun (width n : Nat) (ds rest : List Char) : Prop where
  nonempty : ds ≠ []
  digits : ∀ c ∈ ds, isDigit c
  fits : ds.length ≤ width
  stops : ds.length = width ∨ ∀ c ∈ rest.head?, ¬isDigit c
  value : foldDigits 0 ds = n

/-- The characters start with a number of one or two digits after any blanks. -/
def SpelledField (n : Nat) (cs rest : List Char) : Prop :=
  ∃ ds, Text.skipBlanks cs = ds ++ rest ∧ DigitRun 2 n ds rest

/-- The characters start with a year: up to four digits, or a sign and any number of them. -/
inductive SpelledYear : Int → List Char → List Char → Prop
  | plain {n : Nat} {ds rest : List Char} :
      DigitRun 4 n ds rest → SpelledYear n (ds ++ rest) rest
  | negative {n : Nat} {ds rest : List Char} :
      DigitRun (ds ++ rest).length n ds rest → SpelledYear (-n) ('-' :: (ds ++ rest)) rest
  | positive {n : Nat} {ds rest : List Char} :
      DigitRun (ds ++ rest).length n ds rest → SpelledYear n ('+' :: (ds ++ rest)) rest

/-- The characters start with the date: year, month and day, and a hyphen after the first two. -/
def Date.Spelled (d : Date) (cs rest : List Char) : Prop :=
  ∃ afterYear afterMonth, SpelledYear d.year (Text.skipBlanks cs) ('-' :: afterYear) ∧
    SpelledField d.month afterYear ('-' :: afterMonth) ∧ SpelledField d.day afterMonth rest

/-- The characters are the digits of the second after a point, of which nine count, or nothing. -/
inductive SpelledFraction : Nat → List Char → Prop
  | none : SpelledFraction 0 []
  | digits {ds : List Char} : ds ≠ [] → (∀ c ∈ ds, isDigit c) →
      SpelledFraction (foldDigits 0 (ds.take 9) * 10 ^ (9 - (ds.take 9).length)) ('.' :: ds)

/-- The characters are what a clock shows of a time of its face: hour, minute and second, a colon after
the first two. -/
def ClockTime.Spelled (t : ClockTime) (cs : List Char) : Prop :=
  t.OnFace ∧ ∃ afterHour afterMinute afterSecond, SpelledField t.hour cs (':' :: afterHour) ∧
    SpelledField t.minute afterHour (':' :: afterMinute) ∧
    SpelledField t.shownSecond afterMinute afterSecond ∧ SpelledFraction t.shownNanos afterSecond

/-- The characters are a date and a time, with a `T` between them or with nothing but blanks, if
any. -/
def Timestamp.Spelled (t : Timestamp) (cs : List Char) : Prop :=
  ∃ afterDate, t.date.Spelled cs afterDate ∧
    (t.time.Spelled afterDate ∨
      ∃ afterMark, afterDate = 'T' :: afterMark ∧ t.time.Spelled afterMark)

namespace CalendarReader

variable {width n : Nat} {cs rest : List Char}

/-- The digits at the front end at the width or where something else follows. -/
theorem takeWhile_stops {ds : List Char} (run : ((ds ++ rest).take width).takeWhile isDigit = ds)
    (short : ds.length < width) : ∀ c ∈ rest.head?, ¬isDigit c := by
  cases rest with
  | nil => exact fun _ absent => nomatch absent
  | cons c rest =>
    rintro c' ⟨⟩ digit
    have kind : ∀ d ∈ ds, isDigit d := fun d member =>
      List.all_eq_true.mp List.all_takeWhile d (run.symm ▸ member)
    have within : (ds ++ c :: rest).take width = ds ++ c :: rest.take (width - ds.length - 1) := by
      rw [List.take_append, List.take_of_length_le (Nat.le_of_lt short)]
      rw [List.take_cons (by omega)]
    rw [within, List.takeWhile_append_of_pos kind, List.takeWhile_cons_of_pos digit] at run
    simpa using congrArg List.length run

/-- A run of digits is all the digits at the front, up to the width. -/
theorem digitRun_eq_some_iff :
    digitRun width cs = some (n, rest) ↔ ∃ ds, cs = ds ++ rest ∧ DigitRun width n ds rest := by
  constructor
  · intro read
    obtain ⟨behind, split⟩ : (cs.take width).takeWhile isDigit <+: cs :=
      (List.takeWhile_prefix _).trans (List.take_prefix _ _)
    rw [digitRun] at read
    split at read
    · cases read
    · next nonempty =>
      generalize run : (cs.take width).takeWhile isDigit = ds at read split nonempty
      have fits : ds.length ≤ width := by
        rw [← run]
        exact Nat.le_trans (List.takeWhile_prefix _).length_le (List.length_take_le _ _)
      obtain ⟨value, rfl⟩ : foldDigits 0 ds = n ∧ behind = rest := by
        simpa [← split] using read
      subst split
      refine ⟨ds, rfl, ?_, ?_, fits, ?_, value⟩
      · rintro rfl
        exact nonempty rfl
      · intro c member
        exact List.all_eq_true.mp List.all_takeWhile c (run.symm ▸ member)
      · rcases Nat.eq_or_lt_of_le fits with full | short
        · exact .inl full
        · exact .inr (takeWhile_stops run short)
  · rintro ⟨ds, rfl, run⟩
    rw [digitRun_append run.nonempty run.digits run.fits run.stops, run.value]

theorem field_eq_some_iff : field cs = some (n, rest) ↔ SpelledField n cs rest :=
  digitRun_eq_some_iff

/-- A run of digits with a sign or none before it is a number with that sign. -/
theorem map_digitRun_eq_some_iff (sign : Nat → Int) {y : Int} :
    (digitRun width cs).map (fun read => (sign read.1, read.2)) = some (y, rest) ↔
      ∃ n ds, y = sign n ∧ cs = ds ++ rest ∧ DigitRun width n ds rest := by
  simp only [Option.map_eq_some_iff, Prod.exists, Prod.mk.injEq, digitRun_eq_some_iff]
  constructor
  · rintro ⟨n, rest', ⟨ds, split, run⟩, rfl, rfl⟩
    exact ⟨n, ds, rfl, split, run⟩
  · rintro ⟨n, ds, rfl, split, run⟩
    exact ⟨n, rest, ⟨ds, split, run⟩, rfl, rfl⟩

theorem year_eq_some_iff {y : Int} :
    year cs = some (y, rest) ↔ SpelledYear y (Text.skipBlanks cs) rest := by
  unfold year
  generalize Text.skipBlanks cs = front
  constructor
  · intro read
    simp only at read
    split at read
    · obtain ⟨n, ds, rfl, rfl, run⟩ := (map_digitRun_eq_some_iff fun n => -(n : Int)).mp read
      exact .negative run
    · obtain ⟨n, ds, rfl, rfl, run⟩ := (map_digitRun_eq_some_iff fun n => (n : Int)).mp read
      exact .positive run
    · obtain ⟨n, ds, rfl, rfl, run⟩ := (map_digitRun_eq_some_iff fun n => (n : Int)).mp read
      exact .plain run
  · intro spelled
    cases spelled with
    | @plain n ds _ run =>
      have read := (map_digitRun_eq_some_iff fun n => (n : Int)).mpr ⟨n, ds, rfl, rfl, run⟩
      obtain ⟨d, ds, rfl⟩ := List.exists_cons_of_ne_nil run.nonempty
      have unsigned := not_sign_of_isDigit (run.digits d List.mem_cons_self)
      simp only
      split
      · next signed => exact absurd (List.cons.inj signed).1 unsigned.1
      · next signed => exact absurd (List.cons.inj signed).1 unsigned.2
      · exact read
    | @negative n ds _ run =>
      exact (map_digitRun_eq_some_iff fun n => -(n : Int)).mpr ⟨n, ds, rfl, rfl, run⟩
    | @positive n ds _ run =>
      exact (map_digitRun_eq_some_iff fun n => (n : Int)).mpr ⟨n, ds, rfl, rfl, run⟩

theorem mark_eq_some_iff {c : Char} : mark c cs = some rest ↔ cs = c :: rest := by
  cases cs with
  | nil => simp [mark]
  | cons d cs =>
    by_cases same : c = d
    · simp [mark, same]
    · simp [mark, same, Ne.symm same]

theorem date_eq_some_iff {d : Date} : date cs = some (d, rest) ↔ d.Spelled cs rest := by
  simp only [date, Option.bind_eq_bind, Option.bind_eq_some_iff, Prod.exists, year_eq_some_iff,
    mark_eq_some_iff, field_eq_some_iff, Date.of?_eq_some_iff, Option.pure_def, Option.some.injEq,
    Prod.mk.injEq]
  constructor
  · rintro ⟨y, _, year, afterYear, rfl, m, _, month, afterMonth, rfl, n, _, day, d',
      ⟨rfl, rfl, rfl⟩, rfl, rfl⟩
    exact ⟨afterYear, afterMonth, year, month, day⟩
  · rintro ⟨afterYear, afterMonth, year, month, day⟩
    exact ⟨_, _, year, _, rfl, _, _, month, _, rfl, _, _, day, d, ⟨rfl, rfl, rfl⟩, rfl, rfl⟩

/-- What is read of a whole text is what its reader takes if nothing is behind it. -/
theorem whole_eq_some_iff {α : Type} {reader : FrontReader α} {value : α} :
    whole reader cs = some value ↔ reader cs = some (value, []) := by
  unfold whole
  constructor
  · intro read
    split at read
    · next found =>
      obtain rfl := Option.some.inj read
      exact found
    · cases read
  · intro read
    rw [read]

/-- Digits behind a point to the end are read as nanoseconds. -/
theorem fraction_eq_some_iff : fraction cs = some (n, []) ↔ SpelledFraction n cs := by
  constructor
  · intro read
    unfold fraction at read
    split at read
    · next ds =>
      simp only at read
      split at read
      · cases read
      · next nonempty =>
        obtain ⟨value, behind⟩ := Prod.mk.inj (Option.some.inj read)
        have front : (ds.take 9).takeWhile isDigit <+: ds :=
          (List.takeWhile_prefix _).trans (List.take_prefix _ _)
        have kind : ∀ c ∈ ds, isDigit c := by
          intro c member
          rw [← List.take_append_drop ((ds.take 9).takeWhile isDigit).length ds] at member
          rcases List.mem_append.mp member with before | after
          · rw [← List.prefix_iff_eq_take.mp front] at before
            exact List.all_eq_true.mp List.all_takeWhile c before
          · exact List.dropWhile_eq_nil_iff.mp behind c after
        rw [List.takeWhile_eq_self_iff.mpr fun c member => kind c (List.mem_of_mem_take member)]
          at value
        rw [← value]
        refine .digits ?_ kind
        rintro rfl
        exact nonempty rfl
    · obtain ⟨rfl, rfl⟩ := Prod.mk.inj (Option.some.inj read)
      exact .none
  · intro spelled
    cases spelled with
    | none => rfl
    | @digits ds nonempty kind =>
      have front : (ds.take 9).takeWhile isDigit = ds.take 9 :=
        List.takeWhile_eq_self_iff.mpr fun c member => kind c (List.mem_of_mem_take member)
      have some : ds.take 9 ≠ [] := by simpa using nonempty
      have behind : (ds.drop (ds.take 9).length).dropWhile isDigit = [] :=
        List.dropWhile_eq_nil_iff.mpr fun c member => kind c (List.mem_of_mem_drop member)
      simp only [fraction, front, behind, List.isEmpty_eq_false_iff.mpr some, Bool.false_eq_true,
        if_false]
      rfl

end CalendarReader

/-- Digits after a point are less than a second. -/
theorem SpelledFraction.lt {n : Nat} {cs : List Char} (spelled : SpelledFraction n cs) :
    n < nanosPerSecond := by
  cases spelled with
  | none => decide
  | @digits ds nonempty kind =>
    have fewer := foldDigits_lt 0 fun c member => kind c (List.mem_of_mem_take (i := 9) member)
    have width : (ds.take 9).length ≤ 9 := List.length_take_le 9 ds
    calc foldDigits 0 (ds.take 9) * 10 ^ (9 - (ds.take 9).length)
        < 10 ^ (ds.take 9).length * 10 ^ (9 - (ds.take 9).length) :=
          Nat.mul_lt_mul_of_pos_right (by simpa using fewer) (Nat.pow_pos (by decide))
      _ = nanosPerSecond := by
        rw [← Nat.pow_add, Nat.add_sub_cancel' width]
        rfl

namespace ClockTime

/-- The numbers of a time of the clock face are those it is found by. -/
theorem ofFace?_eq_some_iff {t : ClockTime} {hour minute second nanos : Nat} :
    ofFace? hour minute second nanos = some t ↔ t.OnFace ∧
      t.hour = hour ∧ t.minute = minute ∧ t.secondOfMinute = second ∧ t.nanos = nanos := by
  constructor
  · intro found
    rw [ofFace?, of?] at found
    split at found
    · next onFace =>
      split at found
      · split at found
        · obtain rfl := Option.some.inj found
          have inMinute : (hour * 3600 + minute * 60 + second) % 60 = second := by omega
          refine ⟨onFace.2.2.2.imp id inMinute.trans, ?_, ?_, inMinute, rfl⟩
          · show (hour * 3600 + minute * 60 + second) / 3600 = hour
            omega
          · show (hour * 3600 + minute * 60 + second) / 60 % 60 = minute
            omega
        · cases found
      · cases found
    · cases found
  · rintro ⟨there, rfl, rfl, rfl, rfl⟩
    exact CalendarReader.ofFace?_eq there

/-- What a clock shows of a time of its face determines it. -/
theorem shown_eq_some_iff {t : ClockTime} {hour minute second nanos : Nat}
    (subsecond : nanos < nanosPerSecond) :
    (if second = 60 then ofFace? hour minute 59 (nanos + nanosPerSecond)
      else ofFace? hour minute second nanos) = some t ↔
    t.OnFace ∧
      t.hour = hour ∧ t.minute = minute ∧ t.shownSecond = second ∧ t.shownNanos = nanos := by
  have within := t.nanos_lt
  have inMinute : t.secondOfMinute < 60 := Nat.mod_lt _ (by decide)
  unfold shownSecond shownNanos
  split
  · next sixtieth =>
    rw [ofFace?_eq_some_iff]
    unfold OnFace nanosPerSecond at *
    omega
  · next ordinary =>
    rw [ofFace?_eq_some_iff]
    unfold OnFace nanosPerSecond at *
    omega

end ClockTime

namespace CalendarReader

variable {cs rest : List Char}

theorem clockTime_eq_some_iff {t : ClockTime} : clockTime cs = some (t, []) ↔ t.Spelled cs := by
  have joined (second : Nat) (one other : Option ClockTime) (rest : List Char) :
      (if second = 60 then one.bind fun time => some (time, rest)
        else other.bind fun time => some (time, rest)) = some (t, []) ↔
      (if second = 60 then one else other) = some t ∧ rest = [] := by
    split <;> simp [Option.bind_eq_some_iff]
  simp only [clockTime, Option.bind_eq_bind, Option.bind_eq_some_iff, Prod.exists,
    mark_eq_some_iff, field_eq_some_iff, Option.pure_def, joined]
  constructor
  · rintro ⟨h, _, hour, afterHour, rfl, m, _, minute, afterMinute, rfl, s, afterSecond, second,
      n, _, nanos, shown, rfl⟩
    have fraction := fraction_eq_some_iff.mp nanos
    obtain ⟨there, rfl, rfl, rfl, rfl⟩ := (ClockTime.shown_eq_some_iff fraction.lt).mp shown
    exact ⟨there, _, _, _, hour, minute, second, fraction⟩
  · rintro ⟨there, afterHour, afterMinute, afterSecond, hour, minute, second, fraction⟩
    have shown := (ClockTime.shown_eq_some_iff fraction.lt).mpr ⟨there, rfl, rfl, rfl, rfl⟩
    exact ⟨_, _, hour, _, rfl, _, _, minute, _, rfl, _, _, second, _, _,
      fraction_eq_some_iff.mpr fraction, shown, rfl⟩

/-- Blanks before a time are skipped in any case. -/
theorem spelled_skipBlanks {t : ClockTime} : t.Spelled (Text.skipBlanks cs) ↔ t.Spelled cs := by
  simp only [ClockTime.Spelled, SpelledField, Text.skipBlanks, List.dropWhile_idempotent]

/-- No time starts with the mark before a time. -/
theorem not_spelled_mark {t : ClockTime} : ¬t.Spelled ('T' :: cs) := by
  rintro ⟨-, _, _, _, ⟨ds, front, run⟩, -⟩
  obtain ⟨d, ds, rfl⟩ := List.exists_cons_of_ne_nil run.nonempty
  have same : 'T' = d := (List.cons.inj front).1
  exact absurd (same ▸ run.digits d List.mem_cons_self : isDigit 'T') (by decide)

/-- A timestamp is read off a whole text as a date, what is taken between, and a time. -/
theorem timestamp_eq_some_iff {between : List Char → Option (List Char)} {t : Timestamp} :
    timestamp between cs = some (t, []) ↔ ∃ afterDate, t.date.Spelled cs afterDate ∧
      ∃ afterMark, between afterDate = some afterMark ∧ t.time.Spelled afterMark := by
  simp only [timestamp, Option.bind_eq_bind, Option.bind_eq_some_iff, Prod.exists,
    date_eq_some_iff, Option.pure_def, Option.some.injEq, Prod.mk.injEq]
  constructor
  · rintro ⟨d, afterDate, date, afterMark, mark, time, _, clock, rfl, rfl⟩
    exact ⟨afterDate, date, afterMark, mark, clockTime_eq_some_iff.mp clock⟩
  · rintro ⟨afterDate, date, afterMark, mark, clock⟩
    exact ⟨_, afterDate, date, afterMark, mark, _, _, clockTime_eq_some_iff.mpr clock, rfl, rfl⟩

end CalendarReader

open CalendarReader

/-- What follows a date that the characters start with is determined, as is the date. -/
theorem Date.Spelled.unique {d e : Date} {cs rest rest' : List Char} (spelled : d.Spelled cs rest)
    (spelled' : e.Spelled cs rest') : d = e ∧ rest = rest' := by
  have read := date_eq_some_iff.mpr spelled
  rw [date_eq_some_iff.mpr spelled'] at read
  obtain ⟨rfl, rfl⟩ := Prod.mk.inj (Option.some.inj read)
  exact ⟨rfl, rfl⟩

/-- A text is read as the date that it spells. -/
theorem Date.read?_eq_some_iff {d : Date} {cs : List Char} :
    Date.read? cs = some d ↔ d.Spelled cs [] := by
  rw [Date.read?, whole_eq_some_iff, date_eq_some_iff]

/-- A text is read as the timestamp that it spells. -/
theorem Timestamp.read?_eq_some_iff {t : Timestamp} {cs : List Char} :
    Timestamp.read? cs = some t ↔ t.Spelled cs := by
  have unmarked (u : Timestamp) :
      whole (timestamp fun cs => some (Text.skipBlanks cs)) cs = some u ↔
        ∃ afterDate, u.date.Spelled cs afterDate ∧ u.time.Spelled afterDate := by
    rw [whole_eq_some_iff, timestamp_eq_some_iff]
    simp [spelled_skipBlanks]
  have marked (u : Timestamp) : whole (timestamp (mark 'T')) cs = some u ↔
      ∃ afterDate, u.date.Spelled cs afterDate ∧
        ∃ afterMark, afterDate = 'T' :: afterMark ∧ u.time.Spelled afterMark := by
    rw [whole_eq_some_iff, timestamp_eq_some_iff]
    simp only [mark_eq_some_iff]
  have exclusive (u : Timestamp) (first : whole (timestamp fun cs => some (Text.skipBlanks cs)) cs =
      some u) : whole (timestamp (mark 'T')) cs = none := by
    obtain ⟨afterDate, date, time⟩ := (unmarked u).mp first
    cases second : whole (timestamp (mark 'T')) cs with
    | none => rfl
    | some v =>
      obtain ⟨afterDate', date', afterMark, rfl, -⟩ := (marked v).mp second
      rw [(date.unique date').2] at time
      exact absurd time not_spelled_mark
  have either : t.Spelled cs ↔ whole (timestamp fun cs => some (Text.skipBlanks cs)) cs = some t ∨
      whole (timestamp (mark 'T')) cs = some t := by
    rw [unmarked, marked]
    constructor
    · rintro ⟨afterDate, date, time | time⟩
      · exact .inl ⟨afterDate, date, time⟩
      · exact .inr ⟨afterDate, date, time⟩
    · rintro (⟨afterDate, date, time⟩ | ⟨afterDate, date, time⟩)
      · exact ⟨afterDate, date, .inl time⟩
      · exact ⟨afterDate, date, .inr time⟩
  rw [either, Timestamp.read?]
  cases first : whole (timestamp fun cs => some (Text.skipBlanks cs)) cs with
  | none => simp
  | some u => simp [exclusive u first]

/-- What spells a date does not spell a timestamp. -/
theorem Timestamp.Spelled.not_date {t : Timestamp} {d : Date} {cs : List Char}
    (spelled : t.Spelled cs) : ¬d.Spelled cs [] := by
  intro date
  obtain ⟨rest, date', time⟩ := spelled
  obtain rfl := (date.unique date').2
  rcases time with ⟨-, _, _, _, ⟨ds, front, run⟩, -⟩ | ⟨_, marked, -⟩
  · exact run.nonempty (List.append_eq_nil_iff.mp front.symm).1
  · cases marked

end Statbook
