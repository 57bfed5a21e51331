import Statbook.Filter.Rule
import Statbook.Proofs.Filter.Infer

/-!
# Days as filters

A filter for a day asks for the timestamps between the first and the last microsecond of it. As
texts are ordered like what a clock shows up to the microsecond, these are just the timestamps of
that day. The day may be given as itself, as any time of it, or as the text of either.
-/

namespace Statbook

namespace FilterValue

/-- A value that names a day: the day, a time of it, or the text of such a value. -/
inductive Names (d : Date) : FilterValue → Prop
  | date : Names d (.date d)
  | timestamp {t : Timestamp} : t.date = d → Names d (.timestamp t)
  | text {value : FilterValue} {text : String} :
      Names d value → value.plainText? = some text → Names d (.text text)

end FilterValue

namespace FilterRule

theorem dayOf_date (key : String) (d : Date) : dayOf key (.text d.text) = .ok d := by
  simp only [dayOf, FilterValue.infer_date d]

theorem dayOf_timestamp (key : String) (t : Timestamp) :
    dayOf key (.text t.sqlText) = .ok t.date := by
  simp only [dayOf, FilterValue.infer_timestamp t]
  rfl

/-- The day that is found is the one that is named. -/
theorem dayOf_of_names (key : String) {d : Date} {value : FilterValue} (names : value.Names d) :
    dayOf key value = .ok d := by
  induction names with
  | date => rfl
  | timestamp same => exact congrArg Except.ok same
  | @text value text names shown ih =>
    cases names with
    | date =>
      obtain rfl : d.text = text := Option.some.inj shown
      exact dayOf_date key d
    | @timestamp t same =>
      obtain rfl : t.sqlText = text := Option.some.inj shown
      subst same
      exact dayOf_timestamp key t
    | @text _ text' _ _ =>
      obtain rfl : text' = text := Option.some.inj shown
      exact ih

/-- The timestamps between the ends of a day are those of the day, up to the microsecond and unless
they lie in the second half of a leap second. -/
theorem within_day_iff {d : Date} {t : Timestamp} (ordinary : t.time.nanos < 1000000000) :
    (Timestamp.startOf d).truncated ≤ t.truncated ∧ t.truncated ≤ (Timestamp.endOf d).truncated ↔
      t.date = d := by
  have inDay : t.time.second < 86400 := t.time.second_lt
  rw [Timestamp.le_iff_not_lt, Timestamp.le_iff_not_lt, Timestamp.lt_iff, Timestamp.lt_iff]
  simp only [Timestamp.truncated, ClockTime.truncated, Timestamp.startOf, Timestamp.endOf,
    ClockTime.midnight, ClockTime.lastMicrosecond]
  constructor
  · rintro ⟨notBefore, notAfter⟩
    apply Date.dayNumber_injective
    omega
  · rintro rfl
    omega

/-- The texts of timestamps are ordered by their bytes as what a clock shows of them is, to the
microsecond: as the timestamps themselves, unless one is in a leap second that no clock face has. So
the two texts that a filter for a day compares with have between them just the timestamps of that
day, and every value that names the day asks for them. -/
theorem text_between_iff_on_day (s t : Timestamp) (plain : s.date.Plain) (plain' : t.date.Plain)
    (d : Date) (plainDay : d.Plain) (column table : String) :
    (Text.bytes s.sqlText ≤ Text.bytes t.sqlText ↔ s.shown.truncated ≤ t.shown.truncated) ∧
    (s.time.OnFace → t.time.OnFace →
      (Text.bytes s.sqlText ≤ Text.bytes t.sqlText ↔ s.truncated ≤ t.truncated)) ∧
    ∃ first last, Sql.values ((Constraint.between column (.startOf d) (.endOf d)).pieces table) =
        [.text first, .text last] ∧
      (∀ u : Timestamp, u.date.Plain → u.time.nanos < 1000000000 →
        (Text.bytes first ≤ Text.bytes u.sqlText ∧ Text.bytes u.sqlText ≤ Text.bytes last ↔
          u.date = d)) ∧
      ∀ key now value, FilterValue.Names d value →
        FilterRule.apply key value table now column .day =
          .ok (.between column (.startOf d) (.endOf d)) := by
  refine ⟨Timestamp.bytes_sqlText_le_iff plain plain', ?_, _, _, rfl, ?_, ?_⟩
  · intro there there'
    rw [Timestamp.bytes_sqlText_le_iff plain plain', Timestamp.shown_of_onFace there,
      Timestamp.shown_of_onFace there']
  · intro u plainTime ordinary
    rw [Timestamp.bytes_sqlText_le_iff plainDay plainTime,
      Timestamp.bytes_sqlText_le_iff plainTime plainDay,
      Timestamp.shown_of_onFace (.inl ordinary)]
    exact within_day_iff ordinary
  · intro key now value names
    show (dayOf key value).map (onDay column) = _
    rw [dayOf_of_names key names]
    rfl

/-- The last day of a year that a leap second made longer. -/
def longDay : Date :=
  ⟨2016, 12, 31, by decide, by decide⟩

/-- The last nanosecond of that day before its leap second. -/
def beforeLeap : Timestamp :=
  ⟨longDay, .lastNanosecond⟩

/-- The first nanosecond of its leap second. -/
def atLeap : Timestamp :=
  ⟨longDay, { ClockTime.lastNanosecond with nanos := 1000000000, nanos_lt := by decide }⟩

theorem longDay_text_between :
    Text.bytes beforeLeap.sqlText ≤ Text.bytes atLeap.sqlText ∧
    (Text.bytes (Timestamp.startOf longDay).sqlText ≤ Text.bytes beforeLeap.sqlText ∧
      Text.bytes beforeLeap.sqlText ≤ Text.bytes (Timestamp.endOf longDay).sqlText) ∧
    FilterRule.apply "on" (.text atLeap.sqlText) "events" beforeLeap "at" .day =
      .ok (.between "at" (.startOf longDay) (.endOf longDay)) := by
  obtain ⟨-, order, first, last, values, between, named⟩ := text_between_iff_on_day beforeLeap
    atLeap (by decide) (by decide) longDay (by decide) "at" "events"
  have truncated : beforeLeap.truncated < atLeap.truncated := by decide
  obtain ⟨start, rest⟩ := List.cons.inj values
  obtain ⟨stop, -⟩ := List.cons.inj rest
  obtain rfl := SqlValue.text.inj start
  obtain rfl := SqlValue.text.inj stop
  exact ⟨(order (by decide) (by decide)).mpr (.inl truncated),
    (between beforeLeap (by decide) (by decide)).mpr rfl,
    named "on" beforeLeap _ (.text (.timestamp rfl) rfl)⟩

/-- A moment of the second that follows it. -/
def afterEveningLeap : Timestamp :=
  ⟨Timestamp.eveningLeap.date, ⟨66601, 200000000, by decide, by decide⟩⟩

/-- A leap second within a minute comes before the second that follows it, but its text may not. -/
theorem text_after_of_leap_within_minute :
    (Timestamp.eveningLeap.date.Plain ∧ afterEveningLeap.date.Plain) ∧
    Timestamp.eveningLeap.truncated ≤ afterEveningLeap.truncated ∧
    ¬Text.bytes Timestamp.eveningLeap.sqlText ≤ Text.bytes afterEveningLeap.sqlText := by
  refine ⟨by decide, .inl (by decide), ?_⟩
  rw [Timestamp.bytes_sqlText_le_iff (by decide) (by decide), Timestamp.le_iff_not_lt, not_not]
  decide

end FilterRule

end Statbook
