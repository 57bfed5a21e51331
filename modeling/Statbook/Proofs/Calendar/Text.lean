import Statbook.Proofs.Calendar.Face
import Statbook.Proofs.Decimal.Digits
import Statbook.Proofs.Text.Runs

/-!
# Texts of dates and timestamps

Different dates have different texts, whatever the size and the sign of the year. So have timestamps,
leap seconds included, unless a clock shows them alike.
-/

namespace Statbook

open Decimal

/-- A character of the text of a date. -/
def isDateChar (c : Char) : Bool :=
  isDigit c || c = '-' || c = '+'

theorem isDateChar_of_isDigit {c : Char} (digit : isDigit c) : isDateChar c := by
  simp [isDateChar, digit]

theorem isDateChar_of_mem_yearText {c : Char} {year : Int} (member : c ∈ yearText year) :
    isDateChar c := by
  unfold yearText at member
  split at member
  · exact isDateChar_of_isDigit (isDigit_of_mem_fixedDigits member)
  · rcases List.mem_cons.mp member with sign | member
    · split at sign <;> subst sign <;> rfl
    · exact isDateChar_of_isDigit (isDigit_of_mem_paddedDigits member)

/-- A year of four digits has another text than a year with a sign. -/
theorem yearText_unsigned {n m : Nat} {sign : Char} (marked : sign = '-' ∨ sign = '+') :
    fixedDigits 4 n ≠ sign :: paddedDigits 4 m := by
  intro same
  have digit : isDigit sign := isDigit_of_mem_fixedDigits (same ▸ List.mem_cons_self)
  rcases marked with rfl | rfl <;> exact absurd digit (by decide)

theorem yearText_of_plain {year : Int} (plain : 0 ≤ year ∧ year ≤ 9999) :
    yearText year = fixedDigits 4 year.toNat :=
  if_pos plain

theorem yearText_of_signed {year : Int} (signed : ¬(0 ≤ year ∧ year ≤ 9999)) :
    ∃ sign, (sign = '-' ∧ year < 0 ∨ sign = '+' ∧ 0 ≤ year) ∧
      yearText year = sign :: paddedDigits 4 year.natAbs := by
  refine ⟨if year < 0 then '-' else '+', ?_, if_neg signed⟩
  split
  · rename_i negative
    exact Or.inl ⟨rfl, negative⟩
  · rename_i positive
    exact Or.inr ⟨rfl, Int.not_lt.mp positive⟩

/-- The text of a year determines it. -/
theorem yearText_injective {year year' : Int} (same : yearText year = yearText year') :
    year = year' := by
  by_cases plain : 0 ≤ year ∧ year ≤ 9999
  · by_cases plain' : 0 ≤ year' ∧ year' ≤ 9999
    · rw [yearText_of_plain plain, yearText_of_plain plain'] at same
      have := fixedDigits_injective (by omega) (by omega) same
      omega
    · obtain ⟨sign, marked, text⟩ := yearText_of_signed plain'
      rw [yearText_of_plain plain, text] at same
      exact absurd same (yearText_unsigned (marked.imp And.left And.left))
  · obtain ⟨sign, marked, text⟩ := yearText_of_signed plain
    by_cases plain' : 0 ≤ year' ∧ year' ≤ 9999
    · rw [yearText_of_plain plain', text] at same
      exact absurd same.symm (yearText_unsigned (marked.imp And.left And.left))
    · obtain ⟨sign', marked', text'⟩ := yearText_of_signed plain'
      rw [text, text'] at same
      obtain ⟨rfl, size⟩ := List.cons.inj same
      have size := paddedDigits_injective size
      rcases marked with ⟨rfl, negative⟩ | ⟨rfl, positive⟩
      · have negative' := marked'.resolve_right fun other => absurd other.1 (by decide)
        omega
      · have positive' := marked'.resolve_left fun other => absurd other.1 (by decide)
        omega

theorem daysInMonth_le (year : Int) (month : Nat) : daysInMonth year month ≤ 31 := by
  unfold daysInMonth monthLengths
  split
  · omega
  · generalize month - 1 = index
    have short : (if isLeapYear year = true then 29 else 28) ≤ 31 := by split <;> omega
    match index with
    | 0 | 1 | 2 | 3 | 4 | 5 | 6 | 7 | 8 | 9 | 10 | 11 => simp [short]
    | _ + 12 => simp

namespace Date

/-- There are twelve months. -/
theorem month_le (d : Date) : d.month ≤ 12 := by
  apply Nat.le_of_not_lt
  intro late
  have none : daysInMonth d.year d.month = 0 := by
    unfold daysInMonth
    rw [if_neg (by omega)]
    rw [List.getD_eq_getElem?_getD, List.getElem?_eq_none (Nat.le_sub_one_of_lt late)]
    rfl
  have some := d.day_mem
  omega

theorem day_le (d : Date) : d.day ≤ 31 :=
  Nat.le_trans d.day_mem.2 (daysInMonth_le d.year d.month)

/-- The numbers of a day are those it is found by. -/
theorem of?_eq_some_iff {d : Date} {year : Int} {month day : Nat} :
    of? year month day = some d ↔ d.year = year ∧ d.month = month ∧ d.day = day := by
  constructor
  · intro found
    unfold of? at found
    split at found
    · split at found
      · obtain rfl := Option.some.inj found
        exact ⟨rfl, rfl, rfl⟩
      · cases found
    · cases found
  · rintro ⟨rfl, rfl, rfl⟩
    simp only [of?, dif_pos d.year_mem, dif_pos d.day_mem]

theorem isDateChar_of_mem_chars {c : Char} {d : Date} (member : c ∈ d.chars) : isDateChar c := by
  have hyphen (ds : List Char) (digits : ∀ c ∈ ds, isDigit c) (member : c ∈ '-' :: ds) :
      isDateChar c := by
    rcases List.mem_cons.mp member with rfl | member
    · rfl
    · exact isDateChar_of_isDigit (digits c member)
  rcases List.mem_append.mp member with member | member
  · rcases List.mem_append.mp member with member | member
    · exact isDateChar_of_mem_yearText member
    · exact hyphen _ (fun _ => isDigit_of_mem_fixedDigits) member
  · exact hyphen _ (fun _ => isDigit_of_mem_fixedDigits) member

/-- The characters of a date determine it. -/
theorem chars_injective {d e : Date} (same : d.chars = e.chars) : d = e := by
  have month := d.month_le
  have month' := e.month_le
  have day := d.day_le
  have day' := e.day_le
  obtain ⟨front, back⟩ := List.append_inj' same (by simp [length_fixedDigits])
  obtain ⟨year, middle⟩ := List.append_inj' front (by simp [length_fixedDigits])
  have yearEq := yearText_injective year
  have monthEq := fixedDigits_injective (by omega) (by omega) (List.cons.inj middle).2
  have dayEq := fixedDigits_injective (by omega) (by omega) (List.cons.inj back).2
  cases d
  cases e
  simp only at yearEq monthEq dayEq
  subst yearEq monthEq dayEq
  rfl

/-- The text of a date determines it. -/
theorem text_injective {d e : Date} (same : d.text = e.text) : d = e :=
  chars_injective (String.ofList_injective same)

end Date

namespace ClockTime

theorem length_faceChars (t : ClockTime) : t.faceChars.length = 8 := by
  simp [faceChars, length_fixedDigits]

/-- What a clock shows, together with the nanoseconds beyond it, determines a time of its face. -/
theorem eq_of_faceChars {s t : ClockTime} (there : s.OnFace) (there' : t.OnFace)
    (face : s.faceChars = t.faceChars) (nanos : s.shownNanos = t.shownNanos) : s = t := by
  obtain ⟨second, nanosBeyond, secondLt, nanosLt⟩ := s
  obtain ⟨second', nanosBeyond', secondLt', nanosLt'⟩ := t
  simp only [faceChars, hour, minute, shownSecond, secondOfMinute, shownNanos] at face nanos
  simp only [OnFace, secondOfMinute] at there there'
  unfold secondsPerDay at secondLt secondLt'
  unfold nanosPerSecond at *
  obtain ⟨front, back⟩ := List.append_inj' face (by simp [length_fixedDigits])
  obtain ⟨first, middle⟩ := List.append_inj' front (by simp [length_fixedDigits])
  have hourEq := fixedDigits_injective (by omega) (by omega) first
  have minuteEq := fixedDigits_injective (by omega) (by omega) (List.cons.inj middle).2
  have secondEq := fixedDigits_injective (by omega) (by omega) (List.cons.inj back).2
  obtain rfl : second = second' := by omega
  obtain rfl : nanosBeyond = nanosBeyond' := by omega
  rfl

/-- Of any time it determines what is shown in its place. -/
theorem shown_eq_of_faceChars {s t : ClockTime} (face : s.faceChars = t.faceChars)
    (nanos : s.shownNanos = t.shownNanos) : s.shown = t.shown := by
  apply eq_of_faceChars s.onFace_shown t.onFace_shown
  · rw [faceChars_shown, faceChars_shown, face]
  · rw [s.face_shown.2.2.2, t.face_shown.2.2.2, nanos]

end ClockTime

/-- The digits of the second are none, or as many as count whole parts of it. -/
theorem fractionChars_cases (n : Nat) : n = 0 ∧ fractionChars n = [] ∨
    ∃ width unit, (width = 3 ∧ unit = 1000000 ∨ width = 6 ∧ unit = 1000 ∨ width = 9 ∧ unit = 1) ∧
      n % unit = 0 ∧ fractionChars n = '.' :: fixedDigits width (n / unit) := by
  unfold fractionChars
  split
  · rename_i zero
    exact Or.inl ⟨zero, rfl⟩
  · right
    split
    · rename_i millis
      exact ⟨3, 1000000, by simp, millis, rfl⟩
    · split
      · rename_i micros
        exact ⟨6, 1000, by simp, micros, rfl⟩
      · exact ⟨9, 1, by simp, Nat.mod_one n, by rw [Nat.div_one]⟩

/-- The digits of the second determine the nanoseconds that a clock shows. -/
theorem fractionChars_injective {m n : Nat} (bound : m < nanosPerSecond)
    (bound' : n < nanosPerSecond) (same : fractionChars m = fractionChars n) : m = n := by
  unfold nanosPerSecond at bound bound'
  rcases fractionChars_cases m with ⟨zero, text⟩ | ⟨width, unit, kind, whole, text⟩
  · rcases fractionChars_cases n with ⟨zero', text'⟩ | ⟨width', unit', kind', whole', text'⟩
    · exact zero.trans zero'.symm
    · rw [text, text'] at same
      simp at same
  · rcases fractionChars_cases n with ⟨zero', text'⟩ | ⟨width', unit', kind', whole', text'⟩
    · rw [text, text'] at same
      simp at same
    · rw [text, text'] at same
      have digits := (List.cons.inj same).2
      have length := congrArg List.length digits
      rw [length_fixedDigits, length_fixedDigits] at length
      subst length
      rcases kind with ⟨rfl, rfl⟩ | ⟨rfl, rfl⟩ | ⟨rfl, rfl⟩
      · obtain rfl : unit' = 1000000 := by omega
        have := fixedDigits_injective (by omega) (by omega) digits
        omega
      · obtain rfl : unit' = 1000 := by omega
        have := fixedDigits_injective (by omega) (by omega) digits
        omega
      · obtain rfl : unit' = 1 := by omega
        have := fixedDigits_injective (by omega) (by omega) digits
        omega

namespace Timestamp

/-- The JSON text of a timestamp determines what a clock shows of it, and nothing else. -/
theorem jsonText_eq_iff {s t : Timestamp} : s.jsonText = t.jsonText ↔ s.shown = t.shown := by
  constructor
  · intro same
    have same := String.ofList_injective same
    rw [List.append_assoc, List.append_assoc] at same
    have stops (cs : List Char) : ∀ c ∈ ('T' :: cs).head?, ¬isDateChar c := by
      intro c member
      simp only [List.head?_cons, Option.mem_some_iff] at member
      subst member
      decide
    obtain ⟨date, rest⟩ := Text.run_append_inj (fun _ => Date.isDateChar_of_mem_chars) (stops _)
      (fun _ => Date.isDateChar_of_mem_chars) (stops _) same
    obtain ⟨face, fraction⟩ := List.append_inj (List.cons.inj rest).2
      (by rw [ClockTime.length_faceChars, ClockTime.length_faceChars])
    have bound (u : ClockTime) : u.shownNanos < nanosPerSecond := Nat.mod_lt _ (by decide)
    have time := ClockTime.shown_eq_of_faceChars face
      (fractionChars_injective (bound s.time) (bound t.time) fraction)
    rw [shown, shown, Date.chars_injective date, time]
  · intro same
    rw [← jsonText_shown s, same, jsonText_shown]

end Timestamp

end Statbook
