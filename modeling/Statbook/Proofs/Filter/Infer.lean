import Statbook.Filter.Infer
import Statbook.Proofs.Calendar.Reading
import Statbook.Proofs.Decimal.ReadBack

/-!
# What printed values are read as

The plain text of a value has no blanks around it, and only the reader of its own kind takes it,
except that a float may be written like an integer. So integers, truth values, dates and timestamps
to the microsecond are read back from their texts, and so are finite floats with that exception.
-/

namespace Statbook

open Decimal

namespace Text

variable {cs : List Char}

theorem skipBlanks_eq_self (first : ∀ c ∈ cs.head?, ¬isBlank c) : skipBlanks cs = cs := by
  cases cs with
  | nil => rfl
  | cons c cs => exact List.dropWhile_cons_of_neg (first c rfl)

/-- A text that has no blank at either end has none to trim. -/
theorem trimChars_eq_self (first : ∀ c ∈ cs.head?, ¬isBlank c)
    (last : ∀ c ∈ cs.getLast?, ¬isBlank c) : trimChars cs = cs := by
  have last : ∀ c ∈ cs.reverse.head?, ¬isBlank c := by rwa [List.head?_reverse]
  have kept : cs.reverse.dropWhile isBlank = cs.reverse := skipBlanks_eq_self last
  rw [trimChars, skipBlanks_eq_self first, dropTrailingBlanks, kept, List.reverse_reverse]

/-- A trimmed text does not start with a blank. -/
theorem not_isBlank_of_mem_head? {c : Char} (member : c ∈ (trimChars cs).head?) : ¬isBlank c := by
  have front : trimChars cs <+: skipBlanks cs := by
    have back : (skipBlanks cs).reverse.dropWhile isBlank <:+ (skipBlanks cs).reverse :=
      List.dropWhile_suffix isBlank
    have := List.reverse_prefix.mpr back
    rwa [List.reverse_reverse] at this
  obtain ⟨rest, split⟩ := front
  have first : c ∈ (skipBlanks cs).head? := by
    rw [← split, List.head?_append, Option.mem_def.mp member]
    rfl
  have kind := List.head?_dropWhile_not isBlank cs
  rw [show (cs.dropWhile isBlank).head? = some c from first] at kind
  simpa using kind

end Text

namespace FilterValue

variable {cs : List Char} {n : Nat}

/-- The start of a date: a sign or none, digits and a hyphen. -/
def StartsYear (cs : List Char) : Prop :=
  ∃ sign ds rest, (sign = [] ∨ sign = ['-'] ∨ sign = ['+']) ∧ ds ≠ [] ∧ (∀ c ∈ ds, isDigit c) ∧
    cs = sign ++ (ds ++ '-' :: rest)

theorem StartsYear.hyphen (starts : StartsYear cs) : '-' ∈ cs := by
  obtain ⟨sign, ds, rest, -, -, -, rfl⟩ := starts
  simp

theorem StartsYear.not_isBlank (starts : StartsYear cs) : ∀ c ∈ cs.head?, ¬Text.isBlank c := by
  obtain ⟨sign, ds, rest, rfl | rfl | rfl, nonempty, kind, rfl⟩ := starts
  · obtain ⟨d, ds, rfl⟩ := List.exists_cons_of_ne_nil nonempty
    rintro c ⟨⟩
    simp [not_isBlank_of_isDigit (kind d List.mem_cons_self)]
  · rintro c ⟨⟩
    decide
  · rintro c ⟨⟩
    decide

/-- No word without a hyphen starts with a year. -/
theorem StartsYear.ne (starts : StartsYear cs) {word : List Char} (free : '-' ∉ word) :
    cs ≠ word := by
  rintro rfl
  exact free starts.hyphen

theorem map_toLower_ne (hyphen : '-' ∈ cs) {word : List Char} (free : '-' ∉ word) :
    cs.map Char.toLower ≠ word := by
  rintro rfl
  exact free (List.mem_map.mpr ⟨'-', hyphen, rfl⟩)

theorem unsigned_append {ds : List Char} (nonempty : ds ≠ []) (kind : ∀ c ∈ ds, isDigit c)
    (rest : List Char) : ∀ c ∈ (ds ++ rest).head?, c ≠ '-' ∧ c ≠ '+' := by
  obtain ⟨d, ds, rfl⟩ := List.exists_cons_of_ne_nil nonempty
  rintro c ⟨⟩
  exact not_sign_of_isDigit (kind d List.mem_cons_self)

/-- What starts with a year is no number, since no sign stands within one. -/
theorem StartsYear.readInt64?_eq_none (starts : StartsYear cs) : readInt64? cs = none := by
  have unread (ds : List Char) (hyphen : '-' ∈ ds) : readNat? ds = none := by
    have mixed : ds.all isDigit = false := by
      rw [List.all_eq_false]
      exact ⟨'-', hyphen, by decide⟩
    rw [readNat?, mixed]
    simp
  obtain ⟨sign, ds, rest, marked, nonempty, kind, rfl⟩ := starts
  have tail : readNat? (ds ++ '-' :: rest) = none := unread _ (by simp)
  rw [readInt64?]
  rcases marked with rfl | rfl | rfl
  · rw [List.nil_append, readInt?_unsigned (unsigned_append nonempty kind _), tail]
    rfl
  · simp [readInt?, tail]
  · simp [readInt?, tail]

/-- Digits that a hyphen follows are no decimal. -/
theorem readMagnitude?_hyphen {ds : List Char} (nonempty : ds ≠ []) (kind : ∀ c ∈ ds, isDigit c)
    (rest : List Char) : readMagnitude? (ds ++ '-' :: rest) = none := by
  have stops : ∀ c ∈ ('-' :: rest).head?, ¬isDigit c := by
    rintro c ⟨⟩
    decide
  have unread : readWritten? (ds ++ '-' :: rest) = none := by
    rw [readWritten?, spanDigits, Text.takeWhile_run kind stops, Text.dropWhile_run kind stops]
    simp only [List.isEmpty_eq_false_iff.mpr nonempty, Bool.false_and, Bool.false_eq_true, if_false]
    rfl
  have other (word : String) (free : '-' ∉ word.toList) :
      String.ofList ((ds ++ '-' :: rest).map Char.toLower) ≠ word := by
    intro same
    refine @map_toLower_ne (ds ++ '-' :: rest) (by simp) _ free ?_
    rw [← same, String.toList_ofList]
  simp only [readMagnitude?, other "inf" (by decide), other "infinity" (by decide),
    other "nan" (by decide), or_self, if_false, unread, Option.map_none]

theorem StartsYear.readFloat?_eq_none (starts : StartsYear cs) : readFloat? cs = none := by
  obtain ⟨sign, ds, rest, marked, nonempty, kind, rfl⟩ := starts
  have unread := readMagnitude?_hyphen nonempty kind rest
  rcases marked with rfl | rfl | rfl
  · rw [List.nil_append, readFloat?_unsigned (unsigned_append nonempty kind _), unread]
  · simp [readFloat?, unread]
  · simp [readFloat?, unread]

/-- What starts with a year is typed as a date or a timestamp, if at all. -/
theorem StartsYear.inferTyped?_eq (starts : StartsYear cs) : inferTyped? (String.ofList cs) =
    ((Date.read? cs).map date <|> (Timestamp.read? cs).map timestamp) := by
  have noNull : inferNull? (String.ofList cs) = none := by
    have other := map_toLower_ne starts.hyphen (show '-' ∉ "null".toList.map Char.toLower by decide)
    rw [inferNull?, Text.sameIgnoringAsciiCase, String.toList_ofList, beq_false_of_ne other]
    rfl
  have noBool : inferBool? (String.ofList cs) = none := by
    have other (word : String) (free : '-' ∉ word.toList) : String.ofList cs ≠ word := by
      intro same
      exact starts.ne free (by rw [← same, String.toList_ofList])
    rw [inferBool?, if_neg (other "true" (by decide)), if_neg (other "false" (by decide))]
  have noInt : inferInt? (String.ofList cs) = none := by
    rw [inferInt?, String.toList_ofList, starts.readInt64?_eq_none]
    rfl
  have noFloat : inferFloat? (String.ofList cs) = none := by
    rw [inferFloat?, String.toList_ofList, starts.readFloat?_eq_none]
    rfl
  rw [inferTyped?, noNull, noBool, noInt, noFloat, String.toList_ofList]
  rfl

theorem startsYear_yearText (year : Int) (rest : List Char) :
    StartsYear (yearText year ++ '-' :: rest) := by
  by_cases plain : 0 ≤ year ∧ year ≤ 9999
  · rw [yearText_of_plain plain]
    exact ⟨[], _, rest, .inl rfl,
      List.isEmpty_eq_false_iff.mp (isEmpty_fixedDigits 4 _ (by decide)),
      fun _ => isDigit_of_mem_fixedDigits, rfl⟩
  · obtain ⟨sign, marked, text⟩ := yearText_of_signed plain
    refine ⟨[sign], _, rest, .inr ?_, CalendarReader.paddedDigits_ne_nil 4 year.natAbs,
      fun _ => isDigit_of_mem_paddedDigits, by rw [text]; rfl⟩
    rcases marked with ⟨rfl, -⟩ | ⟨rfl, -⟩
    · exact .inl rfl
    · exact .inr rfl

theorem startsYear_chars (d : Date) (rest : List Char) : StartsYear (d.chars ++ rest) := by
  rw [Date.chars, List.append_assoc, List.append_assoc, List.cons_append]
  exact startsYear_yearText d.year _

theorem isDigit_of_mem_getLast? {width : Nat} {front : List Char} {c : Char}
    (last : c ∈ (front ++ fixedDigits width n).getLast?) (positive : 0 < width) : isDigit c := by
  rw [List.getLast?_append] at last
  cases digits : (fixedDigits width n).getLast? with
  | none =>
    have empty := isEmpty_fixedDigits width n positive
    rw [List.getLast?_eq_none_iff.mp digits] at empty
    cases empty
  | some c' =>
    rw [digits] at last
    obtain rfl : c' = c := Option.some.inj last
    exact isDigit_of_mem_fixedDigits (List.mem_of_getLast? digits)

/-- There is no blank to trim between a year and a last digit. -/
theorem StartsYear.infer_eq (starts : StartsYear cs) (ends : ∀ c ∈ cs.getLast?, isDigit c) :
    infer (String.ofList cs) =
      ((Date.read? cs).map date <|> (Timestamp.read? cs).map timestamp).getD
        (.text (String.ofList cs)) := by
  have trimmed : Text.trimChars cs = cs :=
    Text.trimChars_eq_self starts.not_isBlank fun c member => by
      simp [not_isBlank_of_isDigit (ends c member)]
  rw [infer, Text.trim, String.toList_ofList, trimmed, starts.inferTyped?_eq]

/-- The text of a date stands for the date. -/
theorem infer_date (d : Date) : infer d.text = .date d := by
  have starts := startsYear_chars d []
  rw [List.append_nil] at starts
  have ends : ∀ c ∈ d.chars.getLast?, isDigit c := by
    intro c last
    rw [Date.chars, List.append_cons] at last
    exact isDigit_of_mem_getLast? last (by decide)
  rw [Date.text, starts.infer_eq ends, Date.read?_chars]
  rfl

/-- The text of a timestamp stands for what it shows of the timestamp, up to the microsecond. -/
theorem infer_timestamp (t : Timestamp) :
    infer t.sqlText = .timestamp t.shown.truncated := by
  have starts : StartsYear t.sqlChars := by
    rw [Timestamp.sqlChars, List.append_assoc]
    exact startsYear_chars t.date _
  have ends : ∀ c ∈ t.sqlChars.getLast?, isDigit c := by
    intro c last
    rw [Timestamp.sqlChars, List.append_cons] at last
    exact isDigit_of_mem_getLast? last (by decide)
  rw [Timestamp.sqlText, starts.infer_eq ends, Date.read?_sqlChars, Timestamp.read?_sqlChars]
  rfl

theorem not_isBlank_of_graphic {c : Char} (graphic : c = '-' ∨ c = '.' ∨ isDigit c) :
    ¬Text.isBlank c := by
  rcases graphic with rfl | rfl | digit
  · decide
  · decide
  · simp [not_isBlank_of_isDigit digit]

variable {s : String}

/-- A text of digits, points and signs has no blanks to trim, and it is no word. -/
theorem infer_eq_of_graphic (graphic : ∀ c ∈ s.toList, c = '-' ∨ c = '.' ∨ isDigit c) : infer s =
    (inferInt? s <|> inferFloat? s <|> (Date.read? s.toList).map date <|>
      (Timestamp.read? s.toList).map timestamp).getD (text s) := by
  have low : ∀ c ∈ s.toList, c.toNat < 65 := by
    intro c member
    rcases graphic c member with rfl | rfl | digit
    · decide
    · decide
    · have := toNat_le_of_isDigit digit
      omega
  have trimmed : Text.trim s = s := by
    rw [Text.trim, Text.trimChars_eq_self, String.ofList_toList]
    · exact fun c first => not_isBlank_of_graphic (graphic c (List.mem_of_mem_head? first))
    · exact fun c last => not_isBlank_of_graphic (graphic c (List.mem_of_getLast? last))
  have noNull : inferNull? s = none := by
    have letter : ("null".toList.map Char.toLower).any (65 ≤ ·.toNat) := by decide
    have other := ne_word_of_low low letter
    rw [inferNull?, Text.sameIgnoringAsciiCase, beq_false_of_ne other]
    rfl
  have noBool : inferBool? s = none := by
    have other (word : String) (letter : word.toList.any (65 ≤ ·.toNat)) : s ≠ word := by
      rintro rfl
      obtain ⟨c, member, high⟩ := List.any_eq_true.mp letter
      exact absurd (low c member) (Nat.not_lt.mpr (of_decide_eq_true high))
    rw [inferBool?, if_neg (other "true" (by decide)), if_neg (other "false" (by decide))]
  rw [infer, trimmed, inferTyped?, noNull, noBool]
  rfl

/-- The text of an integer stands for the integer. -/
theorem infer_int (n : Int64) : infer (ofInt64 n) = .int n := by
  have graphic : ∀ c ∈ (ofInt64 n).toList, c = '-' ∨ c = '.' ∨ isDigit c := by
    intro c member
    rw [ofInt64, String.toList_ofList] at member
    exact (eq_minus_or_isDigit_of_mem_ofInt member).imp_right .inr
  have read : inferInt? (ofInt64 n) = some (.int n) := by
    rw [inferInt?, readInt64?_ofInt64, Option.filter_some, if_pos (beq_self_eq_true _)]
    rfl
  rw [infer_eq_of_graphic graphic, read]
  rfl

/-- The text of a finite float stands for the float, unless it is that of an integer. -/
theorem infer_float {x : Float} (finite : isFinite x) (other : ∀ n, plainFloat x ≠ ofInt64 n) :
    infer (plainFloat x) = .float x := by
  have noInt : inferInt? (plainFloat x) = none := by
    rw [inferInt?, Option.map_eq_none_iff, Option.filter_eq_none_iff]
    intro n _ same
    exact other n (eq_of_beq same).symm
  have read : inferFloat? (plainFloat x) = some (.float x) := by
    rw [inferFloat?, readFloat?_plainFloat finite, Option.filter_some, finite, Bool.true_and,
      if_pos (beq_self_eq_true _)]
    rfl
  rw [infer_eq_of_graphic fun _ => eq_minus_or_point_or_isDigit_of_mem_plainFloat finite, noInt,
    read]
  rfl

theorem infer_bool (b : Bool) : infer (if b then "true" else "false") = .bool b := by
  cases b <;> rfl

end FilterValue

end Statbook
