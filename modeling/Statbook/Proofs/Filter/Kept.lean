import Statbook.Proofs.Calendar.Spelling
import Statbook.Proofs.Filter.Infer

/-!
# What is kept of a typed text

Numbers and truth values print back to the text they were read from. Dates and timestamps need not:
they are read from every spelling that the calendar knows, and a date prints back only to the one it
is written in. What is read as nothing else stays the text it was.
-/

namespace Statbook

open Decimal

/-- The documented shape of a timestamp: a date as it is printed, a blank or a `T`, two digits each
of hour, minute and second with colons between them, and digits after a point, if any. -/
def Timestamp.Shaped (cs : List Char) : Prop :=
  ∃ (d : Date) (mark : Char) (hour minute second : Nat) (fraction : List Char),
    cs = d.chars ++ mark :: (fixedDigits 2 hour ++ ':' :: (fixedDigits 2 minute ++
      ':' :: (fixedDigits 2 second ++ fraction))) ∧
    (mark = ' ' ∨ mark = 'T') ∧
    (fraction = [] ∨ ∃ ds, ds ≠ [] ∧ (∀ c ∈ ds, isDigit c) ∧ fraction = '.' :: ds)

/-- What starts with a date and not with a blank starts with a year. -/
theorem Date.Spelled.startsYear {d : Date} {cs rest : List Char} (spelled : d.Spelled cs rest)
    (first : ∀ c ∈ cs.head?, ¬Text.isBlank c) : FilterValue.StartsYear cs := by
  obtain ⟨afterYear, _, year, -⟩ := spelled
  rw [Text.skipBlanks_eq_self first] at year
  generalize behind : '-' :: afterYear = tail at year
  generalize d.year = number at year
  cases year with
  | plain run => exact ⟨[], _, afterYear, .inl rfl, run.nonempty, run.digits, behind ▸ rfl⟩
  | negative run =>
    exact ⟨['-'], _, afterYear, .inr (.inl rfl), run.nonempty, run.digits, behind ▸ rfl⟩
  | positive run =>
    exact ⟨['+'], _, afterYear, .inr (.inr rfl), run.nonempty, run.digits, behind ▸ rfl⟩

namespace FilterValue

variable {s : String}

/-- The value holds what was typed: a text as it is, a timestamp by having its documented shape, and
any other value by printing back without the blanks around it. -/
inductive Keeps (s : String) : FilterValue → Prop
  | null : Text.sameIgnoringAsciiCase (Text.trim s) "null" → Keeps s null
  | bool {b : Bool} : (bool b).plainText? = some (Text.trim s) → Keeps s (bool b)
  | int {n : Int64} : (int n).plainText? = some (Text.trim s) → Keeps s (int n)
  | float {x : Float} : (float x).plainText? = some (Text.trim s) → Keeps s (float x)
  | text : Keeps s (text s)
  | date {d : Date} : (date d).plainText? = some (Text.trim s) → Keeps s (date d)
  | timestamp {t : Timestamp} : Timestamp.Shaped (Text.trim s).toList → Keeps s (timestamp t)

/-- What a trimmed text is when it is typed as a value. -/
inductive Typed (s : String) : FilterValue → Prop
  | null : Text.sameIgnoringAsciiCase s "null" → Typed s null
  | int {n : Int64} : (int n).plainText? = some s → Typed s (int n)
  | float {x : Float} : (float x).plainText? = some s → Typed s (float x)
  | bool {b : Bool} : (bool b).plainText? = some s → Typed s (bool b)
  | date {d : Date} : d.Spelled s.toList [] → Typed s (date d)
  | timestamp {t : Timestamp} : t.Spelled s.toList → Typed s (timestamp t)

theorem typed_of_inferTyped? {value : FilterValue} (typed : inferTyped? s = some value) :
    Typed s value := by
  simp only [inferTyped?, Option.orElse_eq_orElse, Option.orElse_eq_or,
    Option.or_eq_some_iff] at typed
  rcases typed with
    isNull | ⟨-, isInt | ⟨-, isFloat | ⟨-, isBool | ⟨-, isDate | ⟨-, isTimestamp⟩⟩⟩⟩⟩
  · unfold inferNull? at isNull
    split at isNull
    · next word =>
      obtain rfl := Option.some.inj isNull
      exact .null word
    · cases isNull
  · obtain ⟨n, read, rfl⟩ := Option.map_eq_some_iff.mp isInt
    have same : ofInt64 n = s := eq_of_beq (Option.filter_eq_some_iff.mp read).2
    exact .int (congrArg some same)
  · obtain ⟨x, read, rfl⟩ := Option.map_eq_some_iff.mp isFloat
    have shown := (Option.filter_eq_some_iff.mp read).2
    have same : plainFloat x = s := eq_of_beq (Bool.and_eq_true_iff.mp shown).2
    exact .float (congrArg some same)
  · unfold inferBool? at isBool
    split at isBool
    · next word =>
      obtain rfl := Option.some.inj isBool
      exact .bool (congrArg some word.symm)
    · split at isBool
      · next word =>
        obtain rfl := Option.some.inj isBool
        exact .bool (congrArg some word.symm)
      · cases isBool
  · obtain ⟨d, read, rfl⟩ := Option.map_eq_some_iff.mp isDate
    exact .date (Date.read?_eq_some_iff.mp read)
  · obtain ⟨t, read, rfl⟩ := Option.map_eq_some_iff.mp isTimestamp
    exact .timestamp (Timestamp.read?_eq_some_iff.mp read)

/-- A text stays as it is, or what is between its blanks is typed. -/
theorem infer_cases (s : String) : infer s = text s ∨ Typed (Text.trim s) (infer s) := by
  unfold infer
  cases typed : inferTyped? (Text.trim s) with
  | none => exact .inl rfl
  | some value => exact .inr (typed_of_inferTyped? typed)

/-- What starts with a year, if it is a date or a timestamp at all, is no other value. -/
theorem infer_of_startsYear (starts : StartsYear (Text.trim s).toList) : infer s =
    ((Date.read? (Text.trim s).toList).map date <|>
      (Timestamp.read? (Text.trim s).toList).map timestamp).getD (text s) := by
  have typed := starts.inferTyped?_eq
  rw [String.ofList_toList] at typed
  rw [infer, typed]

theorem not_isBlank_trim : ∀ c ∈ (Text.trim s).toList.head?, ¬Text.isBlank c := by
  intro c member
  rw [Text.trim, String.toList_ofList] at member
  exact Text.not_isBlank_of_mem_head? member

/-- A text is typed as a date exactly when it spells the date between its blanks. -/
theorem infer_eq_date_iff {d : Date} : infer s = date d ↔ d.Spelled (Text.trim s).toList [] := by
  constructor
  · intro typed
    rcases infer_cases s with same | kind
    · rw [same] at typed
      cases typed
    · rw [typed] at kind
      cases kind with
      | date spelled => exact spelled
  · intro spelled
    rw [infer_of_startsYear (spelled.startsYear not_isBlank_trim),
      Date.read?_eq_some_iff.mpr spelled]
    rfl

/-- A text is typed as a timestamp exactly when it spells the timestamp between its blanks. -/
theorem infer_eq_timestamp_iff {t : Timestamp} :
    infer s = timestamp t ↔ t.Spelled (Text.trim s).toList := by
  constructor
  · intro typed
    rcases infer_cases s with same | kind
    · rw [same] at typed
      cases typed
    · rw [typed] at kind
      cases kind with
      | timestamp spelled => exact spelled
  · intro spelled
    obtain ⟨afterDate, date, -⟩ := id spelled
    have noDate : Date.read? (Text.trim s).toList = none := by
      cases read : Date.read? (Text.trim s).toList with
      | none => rfl
      | some d => exact absurd (Date.read?_eq_some_iff.mp read) spelled.not_date
    rw [infer_of_startsYear (date.startsYear not_isBlank_trim), noDate,
      Timestamp.read?_eq_some_iff.mpr spelled]
    rfl

theorem infer_eq_null_iff : infer s = null ↔ Text.sameIgnoringAsciiCase (Text.trim s) "null" := by
  constructor
  · intro typed
    rcases infer_cases s with same | kind
    · rw [same] at typed
      cases typed
    · rw [typed] at kind
      cases kind with
      | null word => exact word
  · intro word
    rw [infer, inferTyped?, inferNull?, if_pos word]
    rfl

/-- A value keeps what it was typed from if a date is spelled as it is printed, and a timestamp in
its documented shape. -/
theorem keeps_of_typed {value : FilterValue} (kind : value = text s ∨ Typed (Text.trim s) value)
    (dates : ∀ d : Date, d.Spelled (Text.trim s).toList [] → d.text = Text.trim s)
    (timestamps : (∃ t : Timestamp, t.Spelled (Text.trim s).toList) →
      Timestamp.Shaped (Text.trim s).toList) : Keeps s value := by
  rcases kind with rfl | kind
  · exact .text
  · cases kind with
    | null word => exact .null word
    | int same => exact .int same
    | float same => exact .float same
    | bool same => exact .bool same
    | date spelled => exact .date (congrArg some (dates _ spelled))
    | timestamp spelled => exact .timestamp (timestamps ⟨_, spelled⟩)

/-- A typed text is kept, unless it is a date in another spelling than it is printed in, or a
timestamp in another shape than the documented one. What it is typed as then is the date or the
timestamp that it spells, and only the word for nothing is typed as nothing. -/
theorem infer_keeps_iff (s : String) :
    (infer s = null ↔ Text.sameIgnoringAsciiCase (Text.trim s) "null") ∧
    (∀ d, infer s = date d ↔ d.Spelled (Text.trim s).toList []) ∧
    (∀ t, infer s = timestamp t ↔ t.Spelled (Text.trim s).toList) ∧
    (Keeps s (infer s) ↔
      (∀ d : Date, d.Spelled (Text.trim s).toList [] → d.text = Text.trim s) ∧
      ((∃ t : Timestamp, t.Spelled (Text.trim s).toList) →
        Timestamp.Shaped (Text.trim s).toList)) := by
  refine ⟨infer_eq_null_iff, fun d => infer_eq_date_iff, fun t => infer_eq_timestamp_iff, ?_, ?_⟩
  · intro kept
    constructor
    · intro d spelled
      rw [infer_eq_date_iff.mpr spelled] at kept
      cases kept with
      | date same => exact Option.some.inj same
    · rintro ⟨t, spelled⟩
      rw [infer_eq_timestamp_iff.mpr spelled] at kept
      cases kept with
      | timestamp shaped => exact shaped
  · exact fun spellings => keeps_of_typed (infer_cases s) spellings.1 spellings.2

/-- A date of one-digit numbers and a timestamp with nothing between day and hour are typed all the
same: the one prints back to another text, and the other does not have the documented shape. -/
theorem infer_loses_spelling : ¬Keeps "1-2-3" (infer "1-2-3") ∧
    ¬Keeps "2019-11-0508:30:00" (infer "2019-11-0508:30:00") := by
  constructor
  · have typed : infer "1-2-3" = date ⟨1, 2, 3, by decide, by decide⟩ := rfl
    intro kept
    rw [typed] at kept
    have other : (⟨1, 2, 3, by decide, by decide⟩ : Date).text ≠ Text.trim "1-2-3" := by decide
    cases kept with
    | date same => exact other (Option.some.inj same)
  · have typed : infer "2019-11-0508:30:00" =
        timestamp ⟨⟨2019, 11, 5, by decide, by decide⟩, ⟨30600, 0, by decide, by decide⟩⟩ := rfl
    intro kept
    rw [typed] at kept
    obtain ⟨d, mark, _, _, _, _, shape, marked, -⟩ : Timestamp.Shaped _ := by
      cases kept with
      | timestamp shaped => exact shaped
    have there : mark ∈ (Text.trim "2019-11-0508:30:00").toList := by
      rw [shape]
      exact List.mem_append_right _ List.mem_cons_self
    have absent : ' ' ∉ (Text.trim "2019-11-0508:30:00").toList ∧
        'T' ∉ (Text.trim "2019-11-0508:30:00").toList := by decide
    rcases marked with rfl | rfl
    · exact absent.1 there
    · exact absent.2 there

end FilterValue

end Statbook
