import Statbook.Proofs.Decimal.Integers

/-!
# Rounding keeps the order

The intervals of the floats lie one after another, so a lesser number rounds to no greater float. A
product that does not overflow therefore does not overflow for lesser factors either.
-/

namespace Statbook.Decimal

open Float.Model Float.Model.UnpackedFloat

variable {m m' : Nat} {e e' : Int} {v v' : ℚ}

/-- The interval of a float ends where that of a greater one starts, or below. -/
theorem high_le_low (valid : Representable m e) (valid' : Representable m' e')
    (order : e < e' ∨ e = e' ∧ m < m') :
    (Rounding.around m e).high * (2 : ℚ) ^ (e - 2) ≤
      (Rounding.around m' e').low * (2 : ℚ) ^ (e' - 2) := by
  have lt := valid.lt
  have least := valid.least
  have full' := valid'.full
  have low := low_around m' e'
  obtain ⟨k, rfl⟩ : ∃ k : Nat, e' = e + k := ⟨(e' - e).toNat, by omega⟩
  have unit : (2 : ℚ) ^ (e + k - 2) = 2 ^ k * (2 : ℚ) ^ (e - 2) := by
    rw [← zpow_natCast, ← zpow_add₀ (by norm_num)]
    congr 1
    omega
  have whole : (Rounding.around m e).high ≤ (Rounding.around m' (e + k)).low * 2 ^ k := by
    generalize (Rounding.around m' (e + k)).low = lower at *
    show 4 * m + 2 ≤ lower * 2 ^ k
    unfold hiddenBit at *
    cases k with
    | zero =>
      rw [Nat.pow_zero, Nat.mul_one]
      omega
    | succ k =>
      have double : lower * 2 ≤ lower * 2 ^ (k + 1) :=
        Nat.mul_le_mul_left lower (Nat.le_self_pow (Nat.succ_ne_zero k) 2)
      omega
  rw [unit, ← mul_assoc]
  apply mul_le_mul_of_nonneg_right _ (by positivity)
  exact_mod_cast whole

/-- A lesser number rounds to no greater float. -/
theorem order_of_covers (valid : Representable m e) (valid' : Representable m' e')
    (covers : (Rounding.around m e).Covers e v) (covers' : (Rounding.around m' e').Covers e' v')
    (le : v ≤ v') : e < e' ∨ e = e' ∧ m ≤ m' := by
  by_contra other
  have gap := high_le_low valid' valid (by omega)
  have same : v = v' := le_antisymm le (covers'.bounds.2.trans (gap.trans covers.bounds.1))
  obtain ⟨rfl, rfl⟩ := eq_of_covers valid valid' covers (same ▸ covers')
  omega

theorem value_le_of_order (valid : Representable m e) (valid' : Representable m' e')
    (order : e < e' ∨ e = e' ∧ m ≤ m') : m * (2 : ℚ) ^ e ≤ m' * (2 : ℚ) ^ e' := by
  have lt := valid.lt
  have least := valid.least
  have full' := valid'.full
  obtain ⟨k, rfl⟩ : ∃ k : Nat, e' = e + k := ⟨(e' - e).toNat, by omega⟩
  have whole : m ≤ m' * 2 ^ k := by
    cases k with
    | zero =>
      rw [Nat.pow_zero, Nat.mul_one]
      omega
    | succ k =>
      have double : m' * 2 ≤ m' * 2 ^ (k + 1) :=
        Nat.mul_le_mul_left m' (Nat.le_self_pow (Nat.succ_ne_zero k) 2)
      omega
  rw [zpow_add₀ (by norm_num), zpow_natCast, mul_comm ((2 : ℚ) ^ e), ← mul_assoc]
  apply mul_le_mul_of_nonneg_right _ (by positivity)
  exact_mod_cast whole

/-- The floats of an exponent beyond the greatest one are infinite. -/
theorem isFinite_pack_iff (valid : Representable m e) :
    Decimal.isFinite (.ofModel (pack (unpacked .positive m e))) ↔ e ≤ 971 := by
  constructor
  · intro finite
    by_contra beyond
    have overflows : 2 ^ Format.binary64.exponentBits ≤ (e + Format.binary64.exponentBias +
        Format.binary64.mantissaBitsWithoutImplicit).toNat + 1 := by
      show 2048 ≤ (e + 1023 + 52).toNat + 1
      omega
    have infinite : UnpackedFloat.pack .binary64 (unpacked .positive m e) =
        UnpackedFloat.pack .binary64 (.infinity .positive) := by
      rw [unpacked_of_pos _ _ valid.pos]
      simp only [UnpackedFloat.pack, if_pos overflows]
    have same : Float.ofModel (pack (unpacked .positive m e)) =
        .ofModel (pack (.infinity .positive)) := by
      apply float_eq_of_toBits
      exact congrArg UInt64.ofBitVec infinite
    rw [same] at finite
    exact absurd finite (by decide +kernel)
  · intro most
    rw [Decimal.isFinite, parts_pack _ (.inr valid) most]

/-- A product of floats is the float that the exact product rounds to. -/
theorem exists_mul_eq {x y : Float} {m₁ m₂ : Nat} {e₁ e₂ : Int}
    (float : x.toModel.unpack = unpacked .positive m₁ e₁)
    (float' : y.toModel.unpack = unpacked .positive m₂ e₂) (full : hiddenBit ≤ m₁)
    (full' : hiddenBit ≤ m₂) (least : -1074 ≤ e₁ + e₂) :
    ∃ m e, Representable m e ∧
      (Rounding.around m e).Covers e (m₁ * (2 : ℚ) ^ e₁ * (m₂ * (2 : ℚ) ^ e₂)) ∧
      x * y = .ofModel (pack (unpacked .positive m e)) := by
  have pos' : 0 < m₂ := Nat.lt_of_lt_of_le (by decide) full'
  have long : hiddenBit ≤ m₁ * m₂ := Nat.le_trans full (Nat.le_mul_of_pos_right m₁ pos')
  have value : ((m₁ * m₂ : Nat) : ℚ) * (2 : ℚ) ^ (e₁ + e₂) =
      m₁ * (2 : ℚ) ^ e₁ * (m₂ * (2 : ℚ) ^ e₂) := by
    rw [zpow_add₀ (by norm_num)]
    push_cast
    ring
  obtain ⟨m, e, -, valid, -, -, covers⟩ := exists_covers_of_full long least
  rw [value] at covers
  exact ⟨m, e, valid, covers, float_mul_eq float float' full full' valid covers⟩

/-- The float is the one that a number of one or more rounds to. -/
def IsNearest (x : Float) (v : ℚ) : Prop :=
  ∃ m e, hiddenBit ≤ m ∧ -53 ≤ e ∧ Representable m e ∧ (Rounding.around m e).Covers e v ∧
    x.toModel.unpack = unpacked .positive m e

theorem isNearest_ofNat {n : Nat} (pos : 0 < n) (fits : n < 2 ^ 64) :
    IsNearest (Float.ofNat n) n := by
  obtain ⟨m, e, full, valid, least, scale, covers⟩ := exists_covers pos
  have log : n.log2 < 64 := (Nat.log2_lt pos.ne').mpr fits
  refine ⟨m, e, full, least, valid, covers, ?_⟩
  rw [float_ofNat_eq pos valid covers]
  exact unpack_pack _ (.inr valid) (by omega)

/-- A product that does not overflow does not overflow for lesser factors. -/
theorem isFinite_mul_of_le {x x' y y' : Float} {v v' w w' : ℚ} (near : IsNearest x v)
    (near' : IsNearest x' v') (near₂ : IsNearest y w) (near₂' : IsNearest y' w') (le : v ≤ v')
    (le₂ : w ≤ w') (finite : Decimal.isFinite (x' * y')) : Decimal.isFinite (x * y) := by
  obtain ⟨m₁, e₁, full, least, valid, covers, float⟩ := near
  obtain ⟨m₁', e₁', full', least', valid', covers', float'⟩ := near'
  obtain ⟨m₂, e₂, full₂, least₂, valid₂, covers₂, float₂⟩ := near₂
  obtain ⟨m₂', e₂', full₂', least₂', valid₂', covers₂', float₂'⟩ := near₂'
  obtain ⟨m, e, inRange, rounds, product⟩ := exists_mul_eq float float₂ full full₂ (by omega)
  obtain ⟨m', e', inRange', rounds', product'⟩ :=
    exists_mul_eq float' float₂' full' full₂' (by omega)
  have more : m₁ * (2 : ℚ) ^ e₁ * (m₂ * (2 : ℚ) ^ e₂) ≤
      m₁' * (2 : ℚ) ^ e₁' * (m₂' * (2 : ℚ) ^ e₂') := by
    have first := value_le_of_order valid valid' (order_of_covers valid valid' covers covers' le)
    have second :=
      value_le_of_order valid₂ valid₂' (order_of_covers valid₂ valid₂' covers₂ covers₂' le₂)
    gcongr
  have order := order_of_covers inRange inRange' rounds rounds' more
  rw [product', isFinite_pack_iff inRange'] at finite
  rw [product, isFinite_pack_iff inRange]
  omega

end Statbook.Decimal
