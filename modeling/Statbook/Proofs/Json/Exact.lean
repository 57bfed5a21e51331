import Statbook.Proofs.Decimal.Order
import Statbook.Proofs.Json.Reading

/-!
# JSON numbers that are read exactly

Digits and powers of ten are rounded before they are multiplied, so what is read of a float is
rounded three times. Where the digits, as a whole number, and the power of ten are floats
themselves, it is rounded once, and the float that was written is read again.
-/

namespace Statbook.Json

open Decimal Float.Model Float.Model.UnpackedFloat

/-- The whole number ends in a zero for each bit that it has more than a float. -/
def IsFloat (n : Nat) : Prop :=
  2 ^ (n.log2 - 52) ∣ n

instance (n : Nat) : Decidable (IsFloat n) :=
  inferInstanceAs (Decidable (_ ∣ _))

variable {n m : Nat} {e power : Int}

/-- A whole number that is a float is made into that float. -/
theorem exists_unpack_ofNat (pos : 0 < n) (isFloat : IsFloat n) (fits : n ≤ maxSignificand) :
    ∃ m e, hiddenBit ≤ m ∧ m * (2 : ℚ) ^ e = n ∧
      (Float.ofNat n).toModel.unpack = unpacked .positive m e := by
  unfold IsFloat at isFloat
  have log : n.log2 < 64 := (Nat.log2_lt pos.ne').mpr (Nat.lt_of_le_of_lt fits (by decide))
  have upper : n < 2 ^ (n.log2 + 1) := Nat.lt_log2_self
  obtain ⟨j, zeros⟩ : ∃ j, j = n.log2 - 52 := ⟨_, rfl⟩
  rw [← zeros] at isFloat
  obtain ⟨m, rfl⟩ := isFloat
  have mPos : 0 < m := Nat.pos_of_mul_pos_left pos
  have short : m < 2 * hiddenBit := by
    have more : 2 ^ j * m < 2 ^ j * 2 ^ 53 := by
      rw [← Nat.pow_add]
      exact Nat.lt_of_lt_of_le upper (Nat.pow_le_pow_right (by decide) (by omega))
    exact Nat.lt_of_mul_lt_mul_left more
  obtain ⟨k, width, full, short'⟩ := exists_full mPos short
  have valid : Representable (m * 2 ^ k) (j - k) :=
    ⟨Nat.lt_of_lt_of_le (by decide) full, short', by omega, fun _ => full⟩
  have value : ((m * 2 ^ k : Nat) : ℚ) * (2 : ℚ) ^ (j - k : Int) = (2 ^ j * m : Nat) := by
    rw [zpow_sub₀ (by norm_num), zpow_natCast, zpow_natCast]
    push_cast
    field_simp
  refine ⟨m * 2 ^ k, j - k, full, value, ?_⟩
  rw [float_ofNat_eq pos valid (value ▸ covers_self valid)]
  exact unpack_pack _ (.inr valid) (by omega)

/-- The first powers of ten are floats. -/
theorem isPowerOfTen_powerOfTen {k : Nat} (small : k ≤ 22) : isPowerOfTen k (powerOfTen k) := by
  have all : ∀ k : Fin 23, isPowerOfTen k (powerOfTen k) := by decide +kernel
  exact all ⟨k, Nat.lt_succ_of_le small⟩

/-- The product or quotient of floats that is read is rounded once. -/
theorem scaled?_eq (pos : 0 < n) (isFloat : IsFloat n) (fits : n ≤ maxSignificand)
    (small : power.natAbs ≤ 22) (valid : Representable m e) (most : e ≤ 971)
    (covers : (Rounding.around m e).Covers e (n * (10 : ℚ) ^ power)) :
    scaled? n power = some (.ofModel (pack (unpacked .positive m e))) := by
  obtain ⟨m₁, e₁, full, value, float⟩ := exists_unpack_ofNat pos isFloat fits
  obtain ⟨m₂, e₂, full', value', float'⟩ :=
    exists_unpack_of_isPowerOfTen (isPowerOfTen_powerOfTen small)
  unfold scaled?
  simp only [if_neg pos.ne']
  by_cases negative : power < 0
  · have ratio : n * (10 : ℚ) ^ power = m₁ * (2 : ℚ) ^ e₁ / (m₂ * (2 : ℚ) ^ e₂) := by
      rw [value, value', div_eq_mul_inv, ← zpow_natCast, ← zpow_neg]
      congr 2
      omega
    rw [ratio] at covers
    have inRange : power.natAbs ≤ maxPower := Nat.le_trans small (by decide)
    rw [if_pos negative, divideByPower, if_pos inRange,
      float_div_eq float float' full full' valid covers]
  · have size : power.toNat = power.natAbs := by omega
    have exact : n * (10 : ℚ) ^ power = m₁ * (2 : ℚ) ^ e₁ * (m₂ * (2 : ℚ) ^ e₂) := by
      rw [value, value', ← zpow_natCast]
      congr 2
      omega
    rw [exact] at covers
    have inRange : ¬maxPower < power.toNat := by
      have : maxPower = 308 := rfl
      omega
    have finite := (isFinite_pack_iff valid).mpr most
    rw [if_neg negative, if_neg inRange, size,
      float_mul_eq float float' full full' valid covers, if_pos finite]

/-- The digits in the JSON number of a float, as a whole number, and the power of ten are floats
themselves. -/
def writtenExactly (x : Float) : Bool :=
  match Parts.ofFloat x with
  | .finite _ m e => IsFloat (written m e).coefficient ∧ (written m e).exponent.natAbs ≤ 22
  | _ => false

theorem isFinite_of_writtenExactly {x : Float} (exact : writtenExactly x) :
    Decimal.isFinite x := by
  unfold writtenExactly at exact
  split at exact
  · next parts => rw [Decimal.isFinite, parts]
  · cases exact

/-- Such a float is read again. -/
theorem reread?_eq_self {x : Float} (exact : writtenExactly x) : reread? x = some x := by
  unfold writtenExactly at exact
  split at exact
  · next negative m e parts =>
    obtain ⟨isFloat, small⟩ := of_decide_eq_true exact
    have valid := representable_of_finite parts
    obtain ⟨most, same⟩ := eq_pack parts
    have magnitude : scaled? (written m e).coefficient (written m e).exponent =
        some (.ofModel (pack (unpacked .positive m e))) := by
      by_cases zero : m = 0
      · subst zero
        show some (Float.ofNat 0) = _
        rw [show Float.ofNat 0 = .ofModel (pack (.zero .positive)) by decide +kernel]
        rfl
      · have valid := valid.resolve_left fun both => zero both.1
        have covers := shortest_covers Layout.json.tie valid
        rw [written, if_neg zero] at isFloat small ⊢
        rw [← value_spelled] at covers
        exact scaled?_eq (spelled_pos (shortest_coefficient_pos _ valid)) isFloat
          (spelled_le (shortest_coefficient_lt _ valid)) small valid most covers
    unfold reread?
    rw [parts]
    simp only [magnitude, Option.map_some]
    cases negative with
    | false => exact congrArg some same.symm
    | true =>
      rw [if_pos rfl, neg_eq valid most]
      exact congrArg some same.symm
  · cases exact

end Statbook.Json
