import Statbook.CommandLine.FilterArgument
import Statbook.Proofs.Filter.Infer
import Statbook.Proofs.Text.Runs

/-!
# Filters that are printed and read

The argument of a filter is taken apart at its first sign of equality. What stands behind it is the
text of the value, signs of equality included, so a value that is printed there is read back.
-/

namespace Statbook

open Decimal

namespace Text

variable {sep : Char} {cs before after : List Char}

/-- A text is split at a separator that does not occur before. -/
theorem splitFirst_eq_some_iff :
    splitFirst sep cs = some (before, after) ↔ cs = before ++ sep :: after ∧ sep ∉ before := by
  induction cs generalizing before with
  | nil => simp [splitFirst]
  | cons c cs ih =>
    cases before with
    | nil =>
      by_cases same : c = sep
      · simp [splitFirst, same]
      · simp [splitFirst, same]
    | cons b before =>
      by_cases same : c = sep
      · simp only [splitFirst, if_pos same, Option.some.injEq, Prod.mk.injEq, List.nil_eq,
          reduceCtorEq, false_and, List.cons_append, List.cons.injEq, List.mem_cons, not_or]
        grind
      · simp only [splitFirst, if_neg same, Option.map_eq_some_iff, Prod.exists, Prod.mk.injEq,
          List.cons_append, List.cons.injEq, List.mem_cons, not_or]
        grind

theorem splitFirst_eq_none_iff : splitFirst sep cs = none ↔ sep ∉ cs := by
  induction cs with
  | nil => simp [splitFirst]
  | cons c cs ih =>
    by_cases same : c = sep
    · simp [splitFirst, same]
    · simp [splitFirst, same, ih, Ne.symm same]

end Text

/-- The values that their plain texts write without loss: integers, truth values, dates, timestamps
of a clock face in whole microseconds and finite floats. -/
def FilterValue.Lossless : FilterValue → Prop
  | int _ | bool _ | date _ => True
  | timestamp t => t.time.nanos % 1000 = 0 ∧ t.time.OnFace
  | float x => isFinite x
  | _ => False

theorem FilterValue.infer_plainText {value : FilterValue} {text : String}
    (lossless : value.Lossless) (printed : value.plainText? = some text)
    (other : ∀ x n, value = .float x → text ≠ ofInt64 n) : infer text = value := by
  cases value with
  | int n => exact Option.some.inj printed ▸ infer_int n
  | bool b => exact Option.some.inj printed ▸ infer_bool b
  | date d => exact Option.some.inj printed ▸ infer_date d
  | timestamp t =>
    obtain rfl := Option.some.inj printed
    rw [infer_timestamp, Timestamp.shown_of_onFace lossless.2,
      Timestamp.truncated_eq_self lossless.1]
  | float x =>
    obtain rfl := Option.some.inj printed
    exact infer_float lossless fun n => other x n rfl
  | null => cases lossless
  | text s => cases lossless
  | range first last => cases lossless
  | list items => cases lossless

/-- The text of a timestamp of whole microseconds stands for what a clock shows of it. -/
theorem FilterValue.infer_shown {t : Timestamp} (whole : t.time.nanos % 1000 = 0) :
    infer t.sqlText = timestamp t.shown := by
  rw [infer_timestamp, Timestamp.truncated_eq_self (Timestamp.shown_whole whole)]

/-- The argument is taken apart at its first sign of equality. -/
theorem readFilter_eq {before : String} (after : String) (first : '=' ∉ before.toList) :
    readFilter (before ++ "=" ++ after) =
      if Text.isBlankText before then .error (.emptyKey (before ++ "=" ++ after))
      else .ok (Text.trim before, FilterValue.infer after) := by
  have apart : Text.splitFirst '=' (before ++ "=" ++ after).toList =
      some (before.toList, after.toList) := by
    rw [Text.splitFirst_eq_some_iff]
    simp [first]
  simp only [readFilter, apart, String.ofList_toList, Text.trim_eq_empty_iff]

theorem readFilter_of_not_mem {raw : String} (none : '=' ∉ raw.toList) :
    readFilter raw = .error (.noSign raw) := by
  rw [readFilter, Text.splitFirst_eq_none_iff.mpr none]

/-- An argument has no sign of equality or a first one. -/
theorem exists_split (raw : String) : '=' ∉ raw.toList ∨
    ∃ before after, raw = before ++ "=" ++ after ∧ '=' ∉ before.toList := by
  cases split : Text.splitFirst '=' raw.toList with
  | none => exact .inl (Text.splitFirst_eq_none_iff.mp split)
  | some sides =>
    obtain ⟨joined, first⟩ :=
      Text.splitFirst_eq_some_iff.mp (show _ = some (sides.1, sides.2) from split)
    refine .inr ⟨String.ofList sides.1, String.ofList sides.2, ?_, by rwa [String.toList_ofList]⟩
    rw [← String.toList_inj, joined]
    simp

/-- A key and the plain text of a value, with a sign of equality between them, are read as the key
and the value, except that a float with the text of an integer is read as the integer, and a
timestamp that no clock face has as the one that is shown for it. An argument is refused exactly when
it has no sign of equality or nothing but blanks before the first one; otherwise all that stands
behind it is the text of the value. -/
theorem readFilter_reads_printed :
    (∀ (key : String) (value : FilterValue) (text : String), Text.trim key = key → key ≠ "" →
      '=' ∉ key.toList → value.Lossless → value.plainText? = some text →
      ((∀ x n, value = .float x → text ≠ ofInt64 n) →
        readFilter (key ++ "=" ++ text) = .ok (key, value)) ∧
      ∀ x n, value = .float x → text = ofInt64 n →
        readFilter (key ++ "=" ++ text) = .ok (key, .int n)) ∧
    (∀ (key : String) (t : Timestamp), Text.trim key = key → key ≠ "" → '=' ∉ key.toList →
      t.time.nanos % 1000 = 0 →
      readFilter (key ++ "=" ++ t.sqlText) = .ok (key, .timestamp t.shown)) ∧
    (∀ raw, (∃ fault, readFilter raw = .error fault) ↔ '=' ∉ raw.toList ∨
      ∃ before after, raw = before ++ "=" ++ after ∧ '=' ∉ before.toList ∧
        Text.isBlankText before) ∧
    ∀ before after : String, '=' ∉ before.toList → ¬Text.isBlankText before →
      readFilter (before ++ "=" ++ after) = .ok (Text.trim before, FilterValue.infer after) := by
  have named {key : String} (trimmed : Text.trim key = key) (nonempty : key ≠ "") :
      ¬Text.isBlankText key := by
    rw [← Text.trim_eq_empty_iff, trimmed]
    exact nonempty
  refine ⟨?_, ?_, ?_, ?_⟩
  · intro key value text trimmed nonempty free lossless printed
    rw [readFilter_eq text free, if_neg (named trimmed nonempty), trimmed]
    constructor
    · intro other
      rw [FilterValue.infer_plainText lossless printed other]
    · rintro x n - rfl
      rw [FilterValue.infer_int]
  · intro key t trimmed nonempty free whole
    rw [readFilter_eq _ free, if_neg (named trimmed nonempty), trimmed,
      FilterValue.infer_shown whole]
  · intro raw
    constructor
    · rintro ⟨fault, refused⟩
      rcases exists_split raw with none | ⟨before, after, rfl, first⟩
      · exact .inl none
      · rw [readFilter_eq after first] at refused
        split at refused
        · next blank => exact .inr ⟨before, after, rfl, first, blank⟩
        · cases refused
    · rintro (none | ⟨before, after, rfl, first, blank⟩)
      · exact ⟨_, readFilter_of_not_mem none⟩
      · exact ⟨_, by rw [readFilter_eq after first, if_pos blank]⟩
  · intro before after first named
    rw [readFilter_eq after first, if_neg named]

/-- The second half of a leap second, in a year of five digits. -/
def leapHalfSecond : Timestamp :=
  ⟨⟨12016, 6, 30, by decide, by decide⟩, ⟨82799, 1500000000, by decide, by decide⟩⟩

theorem readFilter_leapHalfSecond :
    readFilter "before=+12016-06-30 22:59:60.500000" = .ok ("before", .timestamp leapHalfSecond) ∧
    readFilter "price=1.5" = .ok ("price", .float 1.5) ∧
    readFilter "price=3" = .ok ("price", .int 3) ∧
    readFilter "at=2015-06-30 18:30:01.400000" =
      .ok ("at", .timestamp Timestamp.eveningLeap.shown) := by
  have float (x : Float) (text : String) (finite : isFinite x)
      (printed : (FilterValue.float x).plainText? = some text) :=
    readFilter_reads_printed.1 "price" (.float x) text (by decide) (by decide) (by decide) finite
      printed
  refine ⟨?_, ?_, ?_, ?_⟩
  · exact (readFilter_reads_printed.1 "before" (.timestamp leapHalfSecond)
      "+12016-06-30 22:59:60.500000" (by decide) (by decide) (by decide) ⟨rfl, by decide⟩ rfl).1
      fun _ _ other => by cases other
  · refine (float 1.5 "1.5" (by decide) rfl).1 fun x n _ same => ?_
    -- The text of an integer has no point.
    have point : '.' ∈ ofInt n.toInt := by
      rw [← String.toList_ofList (l := ofInt n.toInt), ← ofInt64, ← same]
      decide
    exact absurd (eq_minus_or_isDigit_of_mem_ofInt point) (by decide)
  · exact (float 3.0 "3" (by decide) rfl).2 3.0 3 rfl (by decide +kernel)
  · exact readFilter_reads_printed.2.1 "at" .eveningLeap (by decide) (by decide) (by decide) rfl

/-- A leap second within a minute prints as the second that follows it, and is read as that. -/
theorem readFilter_not_eveningLeap :
    (FilterValue.timestamp .eveningLeap).plainText? = some "2015-06-30 18:30:01.400000" ∧
    Timestamp.eveningLeap.time.nanos % 1000 = 0 ∧
    readFilter ("at" ++ "=" ++ "2015-06-30 18:30:01.400000") ≠
      .ok ("at", .timestamp .eveningLeap) := by
  refine ⟨rfl, rfl, ?_⟩
  have inferred : FilterValue.infer "2015-06-30 18:30:01.400000" =
      .timestamp Timestamp.eveningLeap.shown :=
    FilterValue.infer_shown (t := .eveningLeap) rfl
  rw [readFilter_eq _ (by decide), if_neg (by decide), inferred]
  intro same
  injection same with pairs
  injection pairs with _ values
  injection values with times
  exact absurd times (by decide)

example : readFilter "note=a=b" = .ok ("note", .text "a=b") := rfl

end Statbook
