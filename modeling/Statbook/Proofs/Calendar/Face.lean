import Statbook.Calendar.Layout

/-!
# What a clock shows

A clock face shows a leap second at the end of a minute as its sixtieth second. A leap second
anywhere else it does not tell from the second that follows: the texts of both are the same.
-/

namespace Statbook

namespace ClockTime

/-- A clock face has the time: it lies in no leap second, or in one at the end of a minute. -/
def OnFace (t : ClockTime) : Prop :=
  t.nanos < nanosPerSecond ∨ t.secondOfMinute = 59

instance (t : ClockTime) : Decidable t.OnFace :=
  inferInstanceAs (Decidable (_ ∨ _))

/-- A leap second that the face does not have is followed by a second of the same minute. -/
theorem second_succ_lt {t : ClockTime} (missing : ¬t.OnFace) :
    t.second + 1 < secondsPerDay ∧ (t.second + 1) / 60 = t.second / 60 := by
  have inDay := t.second_lt
  unfold OnFace secondOfMinute at missing
  unfold secondsPerDay at *
  omega

/-- The time of the face that is shown for a time: itself if the face has it, and otherwise the time
one second later without the leap second. -/
def shown (t : ClockTime) : ClockTime :=
  if there : t.OnFace then t
  else
    { second := t.second + 1
      nanos := t.nanos - nanosPerSecond
      second_lt := (second_succ_lt there).1
      nanos_lt := Nat.lt_of_le_of_lt (Nat.sub_le _ _) t.nanos_lt }

variable {t : ClockTime}

theorem shown_of_onFace (there : t.OnFace) : t.shown = t :=
  dif_pos there

theorem shown_of_not_onFace (missing : ¬t.OnFace) :
    t.shown.second = t.second + 1 ∧ t.shown.nanos = t.nanos - nanosPerSecond := by
  rw [shown, dif_neg missing]
  exact ⟨rfl, rfl⟩

theorem onFace_shown (t : ClockTime) : t.shown.OnFace := by
  by_cases there : t.OnFace
  · rwa [shown_of_onFace there]
  · left
    have prolonged := t.nanos_lt
    rw [(shown_of_not_onFace there).2]
    omega

/-- What the face shows of a time is what it shows of the time of the face in its place. -/
theorem face_shown (t : ClockTime) : t.shown.hour = t.hour ∧ t.shown.minute = t.minute ∧
    t.shown.shownSecond = t.shownSecond ∧ t.shown.shownNanos = t.shownNanos := by
  by_cases there : t.OnFace
  · rw [shown_of_onFace there]
    exact ⟨rfl, rfl, rfl, rfl⟩
  · obtain ⟨second, nanos⟩ := shown_of_not_onFace there
    have minute := (second_succ_lt there).2
    have prolonged := t.nanos_lt
    unfold OnFace secondOfMinute at there
    unfold hour ClockTime.minute shownSecond shownNanos secondOfMinute
    rw [second, nanos]
    unfold nanosPerSecond at *
    omega

theorem faceChars_shown (t : ClockTime) : t.shown.faceChars = t.faceChars := by
  obtain ⟨hour, minute, second, -⟩ := t.face_shown
  rw [faceChars, hour, minute, second]
  rfl

end ClockTime

namespace Timestamp

/-- The timestamp with the time of day that a clock shows. -/
def shown (t : Timestamp) : Timestamp :=
  ⟨t.date, t.time.shown⟩

variable {t : Timestamp}

theorem shown_of_onFace (there : t.time.OnFace) : t.shown = t := by
  rw [shown, ClockTime.shown_of_onFace there]

/-- What is shown of whole microseconds are whole microseconds. -/
theorem shown_whole (whole : t.time.nanos % 1000 = 0) : t.shown.time.nanos % 1000 = 0 := by
  by_cases there : t.time.OnFace
  · rwa [shown_of_onFace there]
  · have nanos := (ClockTime.shown_of_not_onFace there).2
    unfold nanosPerSecond at nanos
    rw [shown, nanos]
    omega

theorem sqlChars_shown (t : Timestamp) : t.shown.sqlChars = t.sqlChars := by
  rw [sqlChars, sqlChars, shown, t.time.faceChars_shown, t.time.face_shown.2.2.2]

theorem jsonText_shown (t : Timestamp) : t.shown.jsonText = t.jsonText := by
  rw [jsonText, jsonText, shown, t.time.faceChars_shown, t.time.face_shown.2.2.2]

/-- A moment of a leap second that prolongs the first second of a minute, at half past six in the
evening. -/
def eveningLeap : Timestamp :=
  ⟨⟨2015, 6, 30, by decide, by decide⟩, ⟨66600, 1400000000, by decide, by decide⟩⟩

example : eveningLeap.shown = ⟨eveningLeap.date, ⟨66601, 400000000, by decide, by decide⟩⟩ := by
  decide

end Timestamp

end Statbook
