import Mathlib.Algebra.Group.Nat.Defs
import Statbook.Decimal.Reader

/-!
# Texts of whole numbers

What is written for a number determines the number: its digits, its digits filled up with
zeros, and its digits behind a sign. The digits are read by `foldDigits`.
-/

namespace Statbook.Decimal

/-- The reader of digits folds them as the core library does. -/
theorem foldDigits_eq_ofDigitChars (acc : Nat) (ds : List Char) :
    foldDigits acc ds = Nat.ofDigitChars 10 ds acc := rfl

theorem foldDigits_append (acc : Nat) (ds es : List Char) :
    foldDigits acc (ds ++ es) = foldDigits (foldDigits acc ds) es := by
  simp only [foldDigits_eq_ofDigitChars, Nat.ofDigitChars_append]

theorem foldDigits_zeros (acc count : Nat) :
    foldDigits acc (List.replicate count '0') = acc * 10 ^ count := by
  rw [foldDigits_eq_ofDigitChars, Nat.ofDigitChars_replicate_zero, Nat.mul_comm]

/-- The digits of a number are read as that number. -/
theorem foldDigits_digits (n : Nat) : foldDigits 0 (digits n) = n :=
  Nat.ofDigitChars_ten_toDigits

theorem digits_ne_nil (n : Nat) : digits n ≠ [] :=
  Nat.toDigits_ne_nil

theorem isDigit_of_mem_digits {c : Char} {n : Nat} (member : c ∈ digits n) : isDigit c := by
  have core : c.isDigit := Nat.isDigit_of_mem_toDigits (by decide) (by decide) member
  simpa [isDigit, Char.isDigit, Char.le_def] using core

theorem isDigit_zero : isDigit '0' := by decide

theorem isDigit_of_mem_zeros {c : Char} {count : Nat}
    (member : c ∈ List.replicate count '0') : isDigit c := by
  rw [List.eq_of_mem_replicate member]
  exact isDigit_zero

/-- The digits of a number determine it. -/
theorem digits_injective {m n : Nat} (same : digits m = digits n) : m = n := by
  rw [← foldDigits_digits m, same, foldDigits_digits]

/-- Leading zeros do not change what is read. -/
theorem foldDigits_paddedDigits (width n : Nat) : foldDigits 0 (paddedDigits width n) = n := by
  rw [paddedDigits, foldDigits_append, foldDigits_zeros, Nat.zero_mul, foldDigits_digits]

theorem paddedDigits_injective {width m n : Nat}
    (same : paddedDigits width m = paddedDigits width n) : m = n := by
  rw [← foldDigits_paddedDigits width m, same, foldDigits_paddedDigits]

theorem length_fixedDigits (width n : Nat) : (fixedDigits width n).length = width := by
  induction width generalizing n with
  | zero => rfl
  | succ width ih => simp [fixedDigits, ih]

theorem isDigit_digitChar {n : Nat} (small : n < 10) : isDigit (Nat.digitChar n) :=
  isDigit_of_mem_digits (n := n) (by simp [digits, Nat.toDigits_of_lt_base small])

theorem isDigit_of_mem_fixedDigits {c : Char} {width n : Nat}
    (member : c ∈ fixedDigits width n) : isDigit c := by
  induction width generalizing n with
  | zero => simp [fixedDigits] at member
  | succ width ih =>
    rcases List.mem_append.mp member with member | member
    · exact ih member
    · rw [List.mem_singleton.mp member]
      exact isDigit_digitChar (Nat.mod_lt n (by decide))

theorem isDigit_of_mem_paddedDigits {c : Char} {width n : Nat}
    (member : c ∈ paddedDigits width n) : isDigit c :=
  (List.mem_append.mp member).elim isDigit_of_mem_zeros isDigit_of_mem_digits

/-- A fixed number of digits is read as the number up to what they cut off. -/
theorem foldDigits_fixedDigits (width n : Nat) :
    foldDigits 0 (fixedDigits width n) = n % 10 ^ width := by
  induction width generalizing n with
  | zero => simp [fixedDigits, foldDigits, Nat.mod_one]
  | succ width ih =>
    have last : foldDigits (n / 10 % 10 ^ width) [Nat.digitChar (n % 10)] =
        10 * (n / 10 % 10 ^ width) + n % 10 :=
      Nat.ofDigitChars_cons_digitChar_of_lt_ten (Nat.mod_lt n (by decide))
    rw [fixedDigits, foldDigits_append, ih, last, Nat.pow_succ', Nat.mod_mul, Nat.add_comm]

/-- Numbers that fit are told apart by a fixed number of digits. -/
theorem digitValue_lt {c : Char} (digit : isDigit c) : digitValue c < 10 := by
  simp only [isDigit, Bool.and_eq_true, decide_eq_true_eq] at digit
  have high : c.toNat ≤ 57 := digit.2
  have zero : '0'.toNat = 48 := rfl
  rw [digitValue, zero]
  omega

/-- Digits write a number that its leading part and their count bound. -/
theorem foldDigits_lt (acc : Nat) {ds : List Char} (kind : ∀ c ∈ ds, isDigit c) :
    foldDigits acc ds < (acc + 1) * 10 ^ ds.length := by
  induction ds generalizing acc with
  | nil => simp [foldDigits]
  | cons c ds ih =>
    have value := digitValue_lt (kind c List.mem_cons_self)
    calc foldDigits acc (c :: ds)
        = foldDigits (10 * acc + digitValue c) ds := rfl
      _ < (10 * acc + digitValue c + 1) * 10 ^ ds.length :=
        ih _ fun d member => kind d (List.mem_cons_of_mem c member)
      _ ≤ (acc + 1) * 10 * 10 ^ ds.length := Nat.mul_le_mul_right _ (by omega)
      _ = (acc + 1) * 10 ^ (c :: ds).length := by
        rw [List.length_cons, Nat.pow_succ, Nat.mul_assoc, Nat.mul_comm 10]

theorem fixedDigits_injective {width m n : Nat} (fits : m < 10 ^ width) (fits' : n < 10 ^ width)
    (same : fixedDigits width m = fixedDigits width n) : m = n := by
  rw [← Nat.mod_eq_of_lt fits, ← Nat.mod_eq_of_lt fits', ← foldDigits_fixedDigits, same,
    foldDigits_fixedDigits]

theorem digitChar_lt_iff {m n : Nat} (small : m < 10) (small' : n < 10) :
    Nat.digitChar m < Nat.digitChar n ↔ m < n := by
  have all : ∀ m < 10, ∀ n < 10, (Nat.digitChar m < Nat.digitChar n ↔ m < n) := by decide
  exact all m small n small'

theorem digitChar_eq_iff {m n : Nat} (small : m < 10) (small' : n < 10) :
    Nat.digitChar m = Nat.digitChar n ↔ m = n := by
  have all : ∀ m < 10, ∀ n < 10, (Nat.digitChar m = Nat.digitChar n ↔ m = n) := by decide
  exact all m small n small'

/-- A fixed number of digits is ordered as the numbers are, and between equal numbers what follows
the digits decides. -/
theorem fixedDigits_append_lt_iff {width m n : Nat} (fits : m < 10 ^ width)
    (fits' : n < 10 ^ width) (rest rest' : List Char) :
    fixedDigits width m ++ rest < fixedDigits width n ++ rest' ↔ m < n ∨ m = n ∧ rest < rest' := by
  induction width generalizing m n rest rest' with
  | zero =>
    have zero : m = 0 ∧ n = 0 := by omega
    simp [fixedDigits, zero]
  | succ width ih =>
    have front : m / 10 < 10 ^ width := Nat.div_lt_of_lt_mul (by rwa [Nat.pow_succ'] at fits)
    have front' : n / 10 < 10 ^ width := Nat.div_lt_of_lt_mul (by rwa [Nat.pow_succ'] at fits')
    have last : m % 10 < 10 := Nat.mod_lt m (by decide)
    have last' : n % 10 < 10 := Nat.mod_lt n (by decide)
    rw [fixedDigits, fixedDigits, List.append_assoc, List.append_assoc, ih front front',
      List.singleton_append, List.singleton_append, List.cons_lt_cons_iff,
      digitChar_lt_iff last last', digitChar_eq_iff last last']
    by_cases less : rest < rest'
    · simp only [less, and_true]
      omega
    · simp only [less, and_false, or_false]
      omega

/-- The text of an integer determines it. -/
theorem ofInt_injective {m n : Int} (same : ofInt m = ofInt n) : m = n := by
  have unsigned (k l : Nat) : digits k ≠ '-' :: digits l := by
    intro same
    have digit : isDigit '-' := isDigit_of_mem_digits (n := k) (same ▸ List.mem_cons_self)
    exact absurd digit (by decide)
  cases m with
  | ofNat m =>
    cases n with
    | ofNat n => exact congrArg Int.ofNat (digits_injective same)
    | negSucc n => exact absurd same (unsigned m (n + 1))
  | negSucc m =>
    cases n with
    | ofNat n => exact absurd same.symm (unsigned n (m + 1))
    | negSucc n =>
      have succ : m + 1 = n + 1 := digits_injective (List.cons.inj same).2
      exact congrArg Int.negSucc (Nat.succ.inj succ)

/-- The text of an integer holds digits, and perhaps a minus sign. -/
theorem eq_minus_or_isDigit_of_mem_ofInt {c : Char} {n : Int} (member : c ∈ ofInt n) :
    c = '-' ∨ isDigit c := by
  cases n with
  | ofNat n => exact Or.inr (isDigit_of_mem_digits member)
  | negSucc n =>
    rcases List.mem_cons.mp member with equal | member
    · exact Or.inl equal
    · exact Or.inr (isDigit_of_mem_digits member)

end Statbook.Decimal
