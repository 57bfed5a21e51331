import Statbook.Proofs.Decimal.Arithmetic

/-!
# Reading back numbers

An integer is read back from its digits, and a finite float from its plain text: the shortest
decimal rounds to the float, and what is read of a decimal is the float that it rounds to.
-/

namespace Statbook.Decimal

open Float.Model Float.Model.UnpackedFloat

variable {cs : List Char}

/-- Characters that start with neither sign are read as an unsigned number. -/
theorem readInt?_unsigned (unsigned : ∀ c ∈ cs.head?, c ≠ '-' ∧ c ≠ '+') :
    readInt? cs = (readNat? cs).map fun n => (n : Int) := by
  unfold readInt?
  split
  · exact absurd rfl (unsigned '-' rfl).1
  · exact absurd rfl (unsigned '+' rfl).2
  · rfl

theorem readFloat?_unsigned (unsigned : ∀ c ∈ cs.head?, c ≠ '-' ∧ c ≠ '+') :
    readFloat? cs = readMagnitude? cs := by
  unfold readFloat?
  split
  · exact absurd rfl (unsigned '-' rfl).1
  · exact absurd rfl (unsigned '+' rfl).2
  · rfl

theorem unsigned_of_isDigit (kind : ∀ c ∈ cs, isDigit c) : ∀ c ∈ cs.head?, c ≠ '-' ∧ c ≠ '+' := by
  intro c first
  have digit := kind c (List.mem_of_mem_head? first)
  constructor
  · rintro rfl
    exact absurd digit (by decide)
  · rintro rfl
    exact absurd digit (by decide)

theorem readInt?_ofInt (n : Int) : readInt? (ofInt n) = some n := by
  cases n with
  | ofNat n =>
    have kind : ∀ c ∈ digits n, isDigit c := fun _ => isDigit_of_mem_digits
    rw [ofInt, readInt?_unsigned (unsigned_of_isDigit kind), readNat_digits]
    rfl
  | negSucc n => exact readInt_minus (readNat_digits (n + 1))

/-- An integer of 64 bits is read back. -/
theorem readInt64?_ofInt64 (n : Int64) : readInt64? (ofInt64 n).toList = some n := by
  have fits : Int64.minValue.toInt ≤ n.toInt ∧ n.toInt ≤ Int64.maxValue.toInt :=
    ⟨Int64.minValue_le_toInt n, Int64.toInt_le n⟩
  rw [ofInt64, String.toList_ofList, readInt64?, readInt?_ofInt]
  show int64? n.toInt = some n
  rw [int64?, if_pos fits, Int64.ofInt_toInt]

theorem toNat_le_of_isDigit {c : Char} (digit : isDigit c) : c.toNat ≤ 57 := by
  simp only [isDigit, Bool.and_eq_true, decide_eq_true_eq] at digit
  exact digit.2

/-- Characters before the letters have no case. -/
theorem map_toLower_eq_self (low : ∀ c ∈ cs, c.toNat < 65) : cs.map Char.toLower = cs := by
  have same : ∀ c ∈ cs, Char.toLower c = c := by
    intro c member
    have small : ¬(65 ≤ c.val ∧ c.val ≤ 90) := fun upper =>
      absurd (low c member) (Nat.not_lt.mpr (UInt32.le_iff_toNat_le.mp upper.1))
    exact dif_neg small
  rw [List.map_congr_left same, List.map_id']

/-- They write no word. -/
theorem ne_word_of_low (low : ∀ c ∈ cs, c.toNat < 65) {word : List Char}
    (letter : word.any (65 ≤ ·.toNat)) : cs.map Char.toLower ≠ word := by
  rw [map_toLower_eq_self low]
  rintro rfl
  obtain ⟨c, member, high⟩ := List.any_eq_true.mp letter
  exact absurd (low c member) (Nat.not_lt.mpr (of_decide_eq_true high))

/-- The text of an unsigned float has digits and points only. -/
theorem eq_point_or_isDigit_of_mem_setPoint {ds : List Char} (kind : ∀ c ∈ ds, isDigit c)
    {point : Int} {c : Char} (member : c ∈ Layout.plain.setPoint ds point) :
    c = '.' ∨ isDigit c := by
  have zeros {count : Nat} (member : c ∈ List.replicate count '0') : c = '.' ∨ isDigit c :=
    .inr (isDigit_of_mem_zeros member)
  have plain (member : c ∈ ds) : c = '.' ∨ isDigit c := .inr (kind c member)
  unfold Layout.setPoint at member
  split at member
  · rcases List.mem_cons.mp member with rfl | member
    · exact .inr (by decide)
    rcases List.mem_cons.mp member with rfl | member
    · exact .inl rfl
    exact (List.mem_append.mp member).elim zeros plain
  · split at member
    · rw [show Layout.plain.wholeEnding.toList = [] from rfl, List.append_nil] at member
      exact (List.mem_append.mp member).elim plain zeros
    · rcases List.mem_append.mp member with member | member
      · exact plain (List.mem_of_mem_take member)
      rcases List.mem_cons.mp member with rfl | member
      · exact .inl rfl
      exact plain (List.mem_of_mem_drop member)

/-- The text of a finite float without its sign. -/
def plainMagnitude (mantissa : Nat) (exponent : Int) : List Char :=
  if mantissa = 0 then '0' :: Layout.plain.wholeEnding.toList
  else Layout.plain.setOut (shortest Layout.plain.tie mantissa exponent)

theorem eq_point_or_isDigit_of_mem_plainMagnitude {mantissa : Nat} {exponent : Int} {c : Char}
    (member : c ∈ plainMagnitude mantissa exponent) : c = '.' ∨ isDigit c := by
  unfold plainMagnitude at member
  split at member
  · obtain rfl : c = '0' := List.mem_singleton.mp member
    exact .inr (by decide)
  · exact eq_point_or_isDigit_of_mem_setPoint (fun _ => isDigit_of_mem_digits) member

/-- The text of an unsigned float is read as a decimal, and no word. -/
theorem readMagnitude?_plainMagnitude (mantissa : Nat) (exponent : Int) :
    readMagnitude? (plainMagnitude mantissa exponent) =
      (readWritten? (plainMagnitude mantissa exponent)).map Written.value := by
  have low : ∀ c ∈ plainMagnitude mantissa exponent, c.toNat < 65 := by
    intro c member
    rcases eq_point_or_isDigit_of_mem_plainMagnitude member with rfl | digit
    · decide
    · have := toNat_le_of_isDigit digit
      omega
  have other (word : String) (letter : word.toList.any (65 ≤ ·.toNat)) :
      String.ofList ((plainMagnitude mantissa exponent).map Char.toLower) ≠ word := by
    intro same
    exact ne_word_of_low low letter (by rw [← same, String.toList_ofList])
  simp only [readMagnitude?, other "inf" (by decide), other "infinity" (by decide),
    other "nan" (by decide), or_self, if_false]

/-- What is read of a decimal that rounds to a float, or of zero, is the float. -/
theorem value_eq {w : Written} {m : Nat} {e : Int} (most : e ≤ 971)
    (value : m = 0 ∧ w.rational = 0 ∨
      Representable m e ∧ (Rounding.around m e).Covers e w.rational) :
    w.value = .ofModel (pack (unpacked .positive m e)) := by
  rcases value with ⟨rfl, zero⟩ | ⟨valid, covers⟩
  · have none : foldDigits 0 (w.whole ++ w.fraction) = 0 := by
      have unit : (10 : ℚ) ^ (w.power - w.fraction.length) ≠ 0 := zpow_ne_zero _ (by norm_num)
      exact_mod_cast (mul_eq_zero.mp zero).resolve_right unit
    rw [Written.value, none, scale, if_pos rfl]
    show (0.0 : Float) = .ofModel (pack (.zero .positive))
    decide +kernel
  · exact scale_eq valid most covers

/-- The sign of a float may be turned. -/
theorem neg_eq {m : Nat} {e : Int} (valid : m = 0 ∧ e = -1074 ∨ Representable m e)
    (most : e ≤ 971) :
    -(Float.ofModel (pack (unpacked .positive m e))) =
      .ofModel (pack (unpacked .negative m e)) := by
  show Float.ofModel (pack (pack (unpacked .positive m e)).unpack.neg) = _
  rw [unpack_pack .positive valid most]
  congr 2
  unfold unpacked
  split <;> rfl

theorem unsigned_plainMagnitude (mantissa : Nat) (exponent : Int) :
    ∀ c ∈ (plainMagnitude mantissa exponent).head?, c ≠ '-' ∧ c ≠ '+' := by
  intro c first
  rcases eq_point_or_isDigit_of_mem_plainMagnitude (List.mem_of_mem_head? first) with rfl | digit
  · decide
  · exact @unsigned_of_isDigit [c] (by simpa using digit) c rfl

/-- The plain text of a finite float is a sign or none and a text of digits and points. -/
theorem plainFloat_eq {x : Float} {negative : Bool} {m : Nat} {e : Int}
    (parts : Parts.ofFloat x = .finite negative m e) :
    (plainFloat x).toList = (if negative then ['-'] else []) ++ plainMagnitude m e := by
  simp only [plainFloat, parts, String.toList_ofList]
  rfl

/-- A finite float is read back from its plain text. -/
theorem readFloat?_plainFloat {x : Float} (finite : isFinite x) :
    readFloat? (plainFloat x).toList = some x := by
  unfold isFinite at finite
  split at finite
  · next negative m e parts =>
    have valid := representable_of_finite parts
    obtain ⟨most, same⟩ := eq_pack parts
    obtain ⟨w, written, value⟩ :=
      @readWritten_magnitude .plain (.inl rfl) m e (valid.imp_left And.left)
    have magnitude : readMagnitude? (plainMagnitude m e) =
        some (.ofModel (pack (unpacked .positive m e))) := by
      rw [readMagnitude?_plainMagnitude, plainMagnitude, written, Option.map_some,
        value_eq most value]
    rw [plainFloat_eq parts]
    cases negative with
    | false =>
      show readFloat? (plainMagnitude m e) = some x
      rw [readFloat?_unsigned (unsigned_plainMagnitude m e), magnitude, same]
      rfl
    | true =>
      show (readMagnitude? (plainMagnitude m e)).map (-·) = some x
      rw [magnitude, Option.map_some, neg_eq valid most, same]
      rfl
  · cases finite

theorem eq_minus_or_point_or_isDigit_of_mem_plainFloat {x : Float} (finite : isFinite x) {c : Char}
    (member : c ∈ (plainFloat x).toList) : c = '-' ∨ c = '.' ∨ isDigit c := by
  unfold isFinite at finite
  split at finite
  · next negative m e parts =>
    rw [plainFloat_eq parts] at member
    rcases List.mem_append.mp member with sign | member
    · left
      split at sign
      · exact List.mem_singleton.mp sign
      · cases sign
    · exact .inr (eq_point_or_isDigit_of_mem_plainMagnitude member)
  · cases finite

end Statbook.Decimal
