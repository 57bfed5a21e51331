import Statbook.Decimal.Layout
import Statbook.Decimal.Reader
import Statbook.Proofs.Decimal.Digits
import Statbook.Proofs.Decimal.Rounding
import Statbook.Proofs.Text.Runs

/-!
# Texts of floats

A text that a layout sets out is read as the decimal that was set out. Since the shortest
decimal determines the float, so does the JSON number that is written for it.
-/

namespace Statbook.Decimal

/-- The number that a written decimal stands for. -/
def Written.rational (w : Written) : ℚ :=
  foldDigits 0 (w.whole ++ w.fraction) * (10 : ℚ) ^ (w.power - w.fraction.length)

/-- The leading digits end where something else starts. -/
theorem spanDigits_append {ds rest : List Char} (digits : ∀ c ∈ ds, isDigit c)
    (stops : ∀ c ∈ rest.head?, ¬isDigit c) : spanDigits (ds ++ rest) = (ds, rest) := by
  rw [spanDigits, Text.takeWhile_run digits stops, Text.dropWhile_run digits stops]

/-- A power of ten that may follow the digits: it starts neither with a digit nor a point. -/
def EndsDigits (tail : List Char) : Prop :=
  ∀ c ∈ tail.head?, ¬isDigit c ∧ c ≠ '.'

theorem endsDigits_nil : EndsDigits [] := by
  intro c member
  simp at member

/-- Digits without a point are read as a whole number. -/
theorem readWritten_whole {whole tail : List Char} (nonempty : whole ≠ [])
    (digits : ∀ c ∈ whole, isDigit c) (ends : EndsDigits tail) :
    readWritten? (whole ++ tail) = (readPower? tail).map fun power => ⟨whole, [], power⟩ := by
  have noPoint : ∀ rest, tail ≠ '.' :: rest := by
    rintro rest rfl
    exact (ends '.' rfl).2 rfl
  unfold readWritten?
  rw [spanDigits_append digits fun c member => (ends c member).1]
  cases tail with
  | nil => simp [nonempty]
  | cons c tail => simp [nonempty]

/-- Digits around a point are read as a decimal. -/
theorem readWritten_fraction {whole fraction tail : List Char} (nonempty : whole ≠ [])
    (digits : ∀ c ∈ whole, isDigit c) (digits' : ∀ c ∈ fraction, isDigit c)
    (ends : EndsDigits tail) :
    readWritten? (whole ++ '.' :: (fraction ++ tail)) =
      (readPower? tail).map fun power => ⟨whole, fraction, power⟩ := by
  have stops : ∀ c ∈ ('.' :: (fraction ++ tail)).head?, ¬isDigit c := by
    intro c member
    simp only [List.head?_cons, Option.mem_some_iff] at member
    subst member
    decide
  unfold readWritten?
  rw [spanDigits_append digits stops]
  simp only [spanDigits_append digits' fun c member => (ends c member).1]
  simp [nonempty]

theorem readWritten_positionalWhole {whole : List Char} (nonempty : whole ≠ [])
    (digits : ∀ c ∈ whole, isDigit c) : readWritten? whole = some ⟨whole, [], 0⟩ := by
  have read := readWritten_whole nonempty digits endsDigits_nil
  simpa [readPower?] using read

theorem readWritten_positional {whole fraction : List Char} (nonempty : whole ≠ [])
    (digits : ∀ c ∈ whole, isDigit c) (digits' : ∀ c ∈ fraction, isDigit c) :
    readWritten? (whole ++ '.' :: fraction) = some ⟨whole, fraction, 0⟩ := by
  have read := readWritten_fraction nonempty digits digits' endsDigits_nil
  simpa [readPower?] using read

theorem readNat_digits (n : Nat) : readNat? (digits n) = some n := by
  have digit : (digits n).all isDigit = true := by
    rw [List.all_eq_true]
    intro c member
    exact isDigit_of_mem_digits member
  simp [readNat?, digits_ne_nil, digit, foldDigits_digits]

theorem readInt_minus {cs : List Char} {n : Nat} (read : readNat? cs = some n) :
    readInt? ('-' :: cs) = some (-(n : Int)) := by
  simp [readInt?, read]

theorem readInt_plus {cs : List Char} {n : Nat} (read : readNat? cs = some n) :
    readInt? ('+' :: cs) = some (n : Int) := by
  simp [readInt?, read]

/-- A power of ten is read with its sign. -/
theorem readPower_signed (power : Int) :
    readPower? ('e' :: (if power < 0 then '-' else '+') :: digits power.natAbs) = some power := by
  have marked (cs : List Char) : readPower? ('e' :: cs) = readInt? cs := rfl
  by_cases negative : power < 0
  · have size : -(power.natAbs : Int) = power := by omega
    rw [if_pos negative, marked, readInt_minus (readNat_digits _), size]
  · have size : (power.natAbs : Int) = power := by omega
    rw [if_neg negative, marked, readInt_plus (readNat_digits _), size]

/-- A whole number ends in nothing, or in a fraction of zero. -/
def Layout.Usual (layout : Layout) : Prop :=
  layout.wholeEnding = "" ∨ layout.wholeEnding = ".0"

/-- Digits behind a point and some zeros. -/
theorem readWritten_behindZeros {ds : List Char} (digits : ∀ c ∈ ds, isDigit c) (n : Nat) :
    ∃ w, readWritten? ('0' :: '.' :: (List.replicate n '0' ++ ds)) = some w ∧
      w.rational = foldDigits 0 ds * (10 : ℚ) ^ (-n - ds.length : Int) := by
  refine ⟨⟨['0'], List.replicate n '0' ++ ds, 0⟩, ?_, ?_⟩
  · have zero : ∀ c ∈ ['0'], isDigit c := by simpa using isDigit_zero
    exact readWritten_positional (by simp) zero fun c member =>
      (List.mem_append.mp member).elim isDigit_of_mem_zeros (digits c)
  · have zeros : foldDigits 0 (['0'] ++ (List.replicate n '0' ++ ds)) = foldDigits 0 ds := by
      rw [foldDigits_append, foldDigits_append, show foldDigits 0 ['0'] = 0 from rfl,
        foldDigits_zeros, Nat.zero_mul]
    have power : (0 : Int) - ((List.replicate n '0' ++ ds).length : Nat) = -n - ds.length := by
      rw [List.length_append, List.length_replicate]
      omega
    rw [Written.rational, zeros, power]

/-- Digits and some zeros in front of the ending of a whole number. -/
theorem readWritten_filled {layout : Layout} (usual : layout.Usual) {ds : List Char}
    (nonempty : ds ≠ []) (digits : ∀ c ∈ ds, isDigit c) (n : Nat) :
    ∃ w, readWritten? (ds ++ List.replicate n '0' ++ layout.wholeEnding.toList) = some w ∧
      w.rational = foldDigits 0 ds * (10 : ℚ) ^ n := by
  have filled : ds ++ List.replicate n '0' ≠ [] := by simp [nonempty]
  have digits' : ∀ c ∈ ds ++ List.replicate n '0', isDigit c :=
    fun c member => (List.mem_append.mp member).elim (digits c) isDigit_of_mem_zeros
  have fold : foldDigits 0 (ds ++ List.replicate n '0') = foldDigits 0 ds * 10 ^ n := by
    rw [foldDigits_append, foldDigits_zeros]
  rcases usual with ending | ending
  · refine ⟨⟨ds ++ List.replicate n '0', [], 0⟩, ?_, ?_⟩
    · simpa [ending] using readWritten_positionalWhole filled digits'
    · rw [Written.rational, List.append_nil, fold]
      push_cast
      simp
  · refine ⟨⟨ds ++ List.replicate n '0', ['0'], 0⟩, ?_, ?_⟩
    · have zero : ∀ c ∈ ['0'], isDigit c := by simpa using isDigit_zero
      simpa [ending] using readWritten_positional filled digits' zero
    · rw [Written.rational, foldDigits_append, fold, show ['0'] = List.replicate 1 '0' from rfl,
        foldDigits_zeros]
      push_cast
      simp

/-- Digits with a point after some of them, but not all. -/
theorem readWritten_pointInside {ds : List Char} (digits : ∀ c ∈ ds, isDigit c) {n : Nat}
    (positive : 0 < n) (inside : n < ds.length) :
    ∃ w, readWritten? (ds.take n ++ '.' :: ds.drop n) = some w ∧
      w.rational = foldDigits 0 ds * (10 : ℚ) ^ (n - ds.length : Int) := by
  refine ⟨⟨ds.take n, ds.drop n, 0⟩, ?_, ?_⟩
  · have nonempty : ds.take n ≠ [] := by
      rw [← List.length_pos_iff, List.length_take]
      omega
    exact readWritten_positional nonempty (fun c member => digits c (List.mem_of_mem_take member))
      fun c member => digits c (List.mem_of_mem_drop member)
  · have power : (0 : Int) - ((ds.drop n).length : Nat) = n - ds.length := by
      rw [List.length_drop]
      omega
    rw [Written.rational, List.take_append_drop, power]

/-- Digits with a point set among them are read as the number they stand for. -/
theorem readWritten_setPoint {layout : Layout} (usual : layout.Usual) {ds : List Char}
    (nonempty : ds ≠ []) (digits : ∀ c ∈ ds, isDigit c) (point : Int) :
    ∃ w, readWritten? (layout.setPoint ds point) = some w ∧
      w.rational = foldDigits 0 ds * (10 : ℚ) ^ (point - ds.length) := by
  unfold Layout.setPoint
  split
  · have power : point - ds.length = -((-point).toNat : Nat) - ds.length := by omega
    rw [power]
    exact readWritten_behindZeros digits _
  split
  · have power : point - ds.length = ((point.toNat - ds.length : Nat) : Int) := by omega
    rw [power, zpow_natCast]
    exact readWritten_filled usual nonempty digits _
  · have power : point - ds.length = (point.toNat : Int) - ds.length := by omega
    rw [power]
    exact readWritten_pointInside digits (by omega) (by omega)

/-- Digits with a power of ten are read as the number they stand for. -/
theorem readWritten_scientific {ds : List Char} (nonempty : ds ≠ [])
    (digits : ∀ c ∈ ds, isDigit c) (power : Int) :
    ∃ w, readWritten? (scientific ds power) = some w ∧
      w.rational = foldDigits 0 ds * (10 : ℚ) ^ (power - (ds.length - 1 : Nat)) := by
  have ends (cs : List Char) : EndsDigits ('e' :: cs) := by
    intro c member
    simp only [List.head?_cons, Option.mem_some_iff] at member
    subst member
    decide
  cases ds with
  | nil => exact absurd rfl nonempty
  | cons d fraction =>
    have digit : ∀ c ∈ [d], isDigit c := by simpa using digits d List.mem_cons_self
    unfold scientific
    simp only [List.drop_succ_cons, List.drop_zero, List.take_succ_cons, List.take_zero]
    cases fraction with
    | nil =>
      refine ⟨⟨[d], [], power⟩, ?_, by simp [Written.rational]⟩
      have read := readWritten_whole (List.cons_ne_nil d []) digit
        (ends ((if power < 0 then '-' else '+') :: Decimal.digits power.natAbs))
      rw [readPower_signed] at read
      simpa using read
    | cons e fraction =>
      refine ⟨⟨[d], e :: fraction, power⟩, ?_, by simp [Written.rational]⟩
      have read := readWritten_fraction (List.cons_ne_nil d []) digit
        (fun c member => digits c (List.mem_cons_of_mem d member))
        (ends ((if power < 0 then '-' else '+') :: Decimal.digits power.natAbs))
      rw [readPower_signed] at read
      simpa using read

/-- What a layout sets out is read as the decimal that was set out. -/
theorem readWritten_setOut {layout : Layout} (usual : layout.Usual) (s : Scaled) :
    ∃ w, readWritten? (layout.setOut s) = some w ∧ w.rational = s.value := by
  have digit : ∀ c ∈ digits s.coefficient, isDigit c := fun c => isDigit_of_mem_digits
  have nonempty := digits_ne_nil s.coefficient
  have length := List.length_pos_iff.mpr nonempty
  have pointed : ∃ w, readWritten? (layout.setPoint (digits s.coefficient)
      ((digits s.coefficient).length + s.exponent)) = some w ∧ w.rational = s.value := by
    obtain ⟨w, read, value⟩ := readWritten_setPoint usual nonempty digit
      ((digits s.coefficient).length + s.exponent)
    refine ⟨w, read, ?_⟩
    rw [value, foldDigits_digits, add_sub_cancel_left, Scaled.value]
  unfold Layout.setOut
  simp only
  split
  · exact pointed
  · split
    · exact pointed
    · obtain ⟨w, read, value⟩ := readWritten_scientific nonempty digit
        ((digits s.coefficient).length + s.exponent - 1)
      refine ⟨w, read, ?_⟩
      rw [value, foldDigits_digits, Scaled.value]
      congr 2
      omega

/-- Where the text of a float without its sign is read as a decimal, that decimal is zero or
rounds to the float. -/
theorem readWritten_magnitude {layout : Layout} (usual : layout.Usual) {mantissa : Nat}
    {exponent : Int} (valid : mantissa = 0 ∨ Representable mantissa exponent) :
    ∃ w, readWritten? (if mantissa = 0 then '0' :: layout.wholeEnding.toList
        else layout.setOut (shortest layout.tie mantissa exponent)) = some w ∧
      (mantissa = 0 ∧ w.rational = 0 ∨ Representable mantissa exponent ∧
        (Rounding.around mantissa exponent).Covers exponent w.rational) := by
  by_cases zero : mantissa = 0
  · rw [if_pos zero]
    have digit : ∀ c ∈ ['0'], isDigit c := by simpa using isDigit_zero
    rcases usual with ending | ending
    · refine ⟨⟨['0'], [], 0⟩, ?_, Or.inl ⟨zero, by simp [Written.rational, foldDigits, digitValue]⟩⟩
      simp only [ending]
      rfl
    · refine ⟨⟨['0'], ['0'], 0⟩, ?_,
        Or.inl ⟨zero, by simp [Written.rational, foldDigits, digitValue]⟩⟩
      simp only [ending]
      rfl
  · rw [if_neg zero]
    have valid := valid.resolve_left zero
    obtain ⟨w, read, value⟩ := readWritten_setOut usual (shortest layout.tie mantissa exponent)
    exact ⟨w, read, Or.inr ⟨valid, value ▸ shortest_covers layout.tie valid⟩⟩

/-- A number that rounds to a float other than zero is not zero. -/
theorem ne_zero_of_covers {mantissa : Nat} {exponent : Int} {v : ℚ}
    (valid : Representable mantissa exponent)
    (covers : (Rounding.around mantissa exponent).Covers exponent v) : v ≠ 0 := by
  have unitPos : (0 : ℚ) < (2 : ℚ) ^ (exponent - 2) := by positivity
  have pos := valid.pos
  have lowPos : 0 < (Rounding.around mantissa exponent).low := by
    rcases low_around mantissa exponent with ⟨low, -⟩ | ⟨low, -⟩ <;> omega
  have lower : (0 : ℚ) < (Rounding.around mantissa exponent).low * (2 : ℚ) ^ (exponent - 2) :=
    mul_pos (by exact_mod_cast lowPos) unitPos
  unfold Rounding.Covers at covers
  split at covers
  · exact (lower.trans_le covers.1).ne'
  · exact (lower.trans covers.1).ne'

end Statbook.Decimal
