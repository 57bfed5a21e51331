import Statbook.Filter.Rule

/-!
# Which window a filter asks for

A filter under a rule for a window asks for the window that its key names, or else for the one that
the text of its value names. A window has two names, a key and a bare word, and either is heeded in
either place. So a key that is a bare word decides before the value is looked at, though it is not
among the keys that stand for a window.
-/

namespace Statbook

/-- What is left after a start is what follows it. -/
theorem Text.afterStart?_eq_some_iff {start cs rest : List Char} :
    Text.afterStart? start cs = some rest ↔ cs = start ++ rest := by
  induction start generalizing cs with
  | nil => simp [Text.afterStart?]
  | cons c start ih =>
    cases cs with
    | nil => simp [Text.afterStart?]
    | cons d cs =>
      by_cases same : c = d
      · simp [Text.afterStart?, same, ih]
      · simp [Text.afterStart?, same, Ne.symm same]

namespace Window

variable {window : Window} {text : String}

/-- The bare word that names a window. -/
def word : Window → String
  | today => "today"
  | week => "week"
  | month => "month"
  | year => "year"

/-- A text names a window by its key or by its bare word. -/
def NamedBy (window : Window) (text : String) : Prop :=
  text = window.key ∨ text = window.word

theorem key_eq (window : Window) : window.key = "range_" ++ window.word := by
  cases window <;> rfl

theorem ofWord?_eq_some_iff : ofWord? text = some window ↔ text = window.word := by
  constructor
  · intro found
    unfold ofWord? at found
    repeat' split at found
    all_goals cases found <;> assumption
  · rintro rfl
    cases window <;> decide

/-- A window is found by its names and by nothing else. -/
theorem ofKey?_eq_some_iff : ofKey? text = some window ↔ window.NamedBy text := by
  constructor
  · intro found
    unfold ofKey? at found
    split at found
    · next word start =>
      left
      rw [Text.afterStart?_eq_some_iff] at start
      rw [window.key_eq, ← ofWord?_eq_some_iff.mp found, ← String.toList_inj, start]
      simp
    · exact .inr (ofWord?_eq_some_iff.mp found)
  · rintro (rfl | rfl) <;> cases window <;> decide

theorem ofKey?_eq_none_iff : ofKey? text = none ↔ ∀ window : Window, ¬window.NamedBy text := by
  simp [Option.eq_none_iff_forall_ne_some, ofKey?_eq_some_iff]

end Window

namespace FilterRule

variable {rule : FilterRule} {field key table : String} {value : FilterValue} {now : Timestamp}

/-- The field that a rule compares with a window, on whichever columns the rule is put. -/
def windowField? : FilterRule → Option String
  | .window field => some field
  | .onColumn _ rule => rule.windowField?
  | .template _ | .equality | .day => none

/-- The constraint that a field lies within a window around the present, if the calendar has it. -/
def inBounds (key field : String) (now : Timestamp) (window : Window) :
    Except StatError (Option Constraint) :=
  match window.bounds? now with
  | some (first, last) => .ok (some (.between field first last))
  | none => .error (.invalidFilterValue key "current time is outside the supported calendar")

/-- A rule for a window goes by the key and the value only, not by the columns it is put on. -/
theorem apply_of_windowField? (asks : rule.windowField? = some field) (column : String) :
    rule.apply key value table now column = inWindow key field value now := by
  induction rule generalizing column with
  | window field' =>
    obtain rfl : field' = field := Option.some.inj asks
    rfl
  | onColumn target rule ih => exact ih asks target
  | template pattern => cases asks
  | equality => cases asks
  | day => cases asks

theorem resolve_of_windowOf? {found : Window} (asks : rule.windowField? = some field)
    (given : value.isNull = false) (window : windowOf? key value = some found) :
    resolve key value (some rule) table now = inBounds key field now found := by
  simp only [resolve, given, Bool.false_eq_true, if_false, apply_of_windowField? asks, inWindow,
    window, inBounds]
  cases found.bounds? now <;> rfl

/-- Under a rule for a window, on whichever columns, the window is the one that the key names by its
key or by its bare word, whatever the value. For any other key it is the one that the text of the
value names, and a value that names none is refused. -/
theorem resolve_window (rule : FilterRule) (field key table : String) (value : FilterValue)
    (now : Timestamp) (asks : rule.windowField? = some field) (given : value.isNull = false) :
    (∀ window : Window, window.NamedBy key →
      resolve key value (some rule) table now = inBounds key field now window) ∧
    ((∀ window : Window, ¬window.NamedBy key) →
      (∀ (window : Window) (text : String), value = .text text → window.NamedBy text →
        resolve key value (some rule) table now = inBounds key field now window) ∧
      ((∀ (window : Window) (text : String), value = .text text → ¬window.NamedBy text) →
        resolve key value (some rule) table now =
          .error (.invalidFilterValue key "expected one of today, week, month, year"))) := by
  refine ⟨fun window named => ?_,
    fun unnamed => ⟨fun window text valued named => ?_, fun other => ?_⟩⟩
  · apply resolve_of_windowOf? asks given
    rw [windowOf?, Window.ofKey?_eq_some_iff.mpr named, Option.some_or]
  · apply resolve_of_windowOf? asks given
    rw [windowOf?, Window.ofKey?_eq_none_iff.mpr unnamed, Option.none_or, valued]
    exact Window.ofKey?_eq_some_iff.mpr named
  · have none : windowOf? key value = none := by
      rw [windowOf?, Window.ofKey?_eq_none_iff.mpr unnamed, Option.none_or,
        Option.bind_eq_none_iff]
      intro text valued
      refine Window.ofKey?_eq_none_iff.mpr fun window named => other window text ?_ named
      cases value <;> cases valued
      rfl
    simp only [resolve, given, Bool.false_eq_true, if_false, apply_of_windowField? asks, inWindow,
      none]
    rfl

/-- An afternoon in the week from the sixth to the twelfth of November. -/
def afternoon : Timestamp :=
  ⟨⟨2023, 11, 9, by decide, by decide⟩, ⟨50700, 0, by decide, ClockTime.nanos_zero_lt⟩⟩

theorem resolve_period_of_today :
    resolve "period" (.text "today") (some (.onColumn "seen" (.window "updated"))) "items"
        afternoon =
      .ok (some (.between "updated" (.startOf afternoon.date) (.endOf afternoon.date))) := by
  obtain ⟨-, byValue⟩ := resolve_window (.onColumn "seen" (.window "updated")) "updated" "period"
    "items" (.text "today") afternoon rfl rfl
  obtain ⟨named, -⟩ := byValue (Window.ofKey?_eq_none_iff.mp (by decide))
  exact named .today "today" rfl (.inr rfl)

/-- The key `week` does not stand for a window, but it hides that the value asks for today. -/
theorem resolve_week_of_today :
    Window.isKey "week" = false ∧
    resolve "week" (.text "today") (some (.window "updated")) "items" afternoon =
      inBounds "week" "updated" afternoon .week ∧
    inBounds "week" "updated" afternoon .week ≠ inBounds "week" "updated" afternoon .today :=
  ⟨by decide, rfl, fun same => absurd (Except.ok.inj same) (by decide)⟩

end FilterRule

end Statbook
