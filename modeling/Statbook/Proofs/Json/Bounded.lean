import Statbook.Proofs.Json.Exact

/-!
# No float is refused

What is read of a float is rounded more than once on the way, and it might have come out beyond all
floats. It does not: with each power of ten the greatest digits that a float can have still give a
finite product, and rounding keeps the order.
-/

namespace Statbook.Json

open Decimal Float.Model Float.Model.UnpackedFloat

variable {n m : Nat} {e power : Int}

/-- The lower end of the interval of the greatest float. -/
def ceiling : Nat :=
  (Rounding.around (2 * hiddenBit - 1) 971).low * 2 ^ 969

/-- The greatest digits of a float beside the power of ten. -/
def greatest (power : Nat) : Nat :=
  min (10 ^ 18) (ceiling / 10 ^ power)

/-- Up to this power of ten eighteen digits are never too many. -/
def harmless : Nat := 290

/-- The greatest digits that a float can have give a finite product with the power of ten. -/
theorem isFinite_greatest {power : Nat} (large : harmless ≤ power) (small : power ≤ maxPower) :
    Decimal.isFinite (Float.ofNat (greatest power) * powerOfTen power) := by
  have all : ∀ k : Fin 19,
      Decimal.isFinite (Float.ofNat (greatest (harmless + k)) * powerOfTen (harmless + k)) := by
    decide +kernel
  have inside : power - harmless < 19 := by
    have : maxPower = 308 := rfl
    have : harmless = 290 := rfl
    omega
  have found := all ⟨power - harmless, inside⟩
  rwa [Nat.add_sub_cancel' large] at found

/-- A power of ten is made into the float that it rounds to. -/
theorem exists_powerOfTen_eq {power : Nat} (small : power ≤ maxPower) :
    ∃ m e, hiddenBit ≤ m ∧ -53 ≤ e ∧ Representable m e ∧
      (Rounding.around m e).Covers e (10 ^ power : Nat) ∧
      powerOfTen power = .ofModel (pack (unpacked .positive m e)) := by
  obtain ⟨m, e, full, valid, least, -, covers⟩ :=
    exists_covers (show 0 < 10 ^ power from Nat.pow_pos (by decide))
  have inRange : (power : Int) ≤ 2048 := by
    have : maxPower = 308 := rfl
    omega
  refine ⟨m, e, full, least, valid, covers, ?_⟩
  rw [powerOfTen, Nat.min_eq_left small]
  apply @float_ofScientific_eq m e 1 power false power (by decide) rfl (by omega) inRange valid
  push_cast at covers
  rwa [Nat.cast_one, one_mul, zpow_natCast]

theorem isNearest_powerOfTen {power : Nat} (small : power ≤ maxPower) :
    IsNearest (powerOfTen power) (10 ^ power : Nat) := by
  obtain ⟨m, e, full, least, valid, covers, float⟩ := exists_powerOfTen_eq small
  obtain ⟨m', e', -, -, valid', covers', float'⟩ := exists_powerOfTen_eq (le_refl maxPower)
  -- The greatest power is finite, and so are the lesser ones.
  have most' : e' ≤ 971 := by
    rw [← isFinite_pack_iff valid', ← float']
    decide +kernel
  have le : ((10 ^ power : Nat) : ℚ) ≤ (10 ^ maxPower : Nat) := by
    exact_mod_cast Nat.pow_le_pow_right (by decide) small
  have order := order_of_covers valid valid' covers covers' le
  refine ⟨m, e, full, least, valid, covers, ?_⟩
  rw [float]
  exact unpack_pack _ (.inr valid) (by omega)

/-- Digits no greater than the greatest ones do not overflow. -/
theorem isFinite_mul_powerOfTen {power : Nat} (pos : 0 < n) (small : power ≤ maxPower)
    (le : n ≤ greatest (max power harmless)) :
    Decimal.isFinite (Float.ofNat n * powerOfTen power) := by
  have fits : greatest (max power harmless) < 2 ^ 64 :=
    Nat.lt_of_le_of_lt (Nat.min_le_left _ _) (by decide)
  have small' : max power harmless ≤ maxPower := Nat.max_le.mpr ⟨small, by decide⟩
  have le' : 10 ^ power ≤ 10 ^ max power harmless :=
    Nat.pow_le_pow_right (by decide) (Nat.le_max_left _ _)
  exact isFinite_mul_of_le (isNearest_ofNat pos (Nat.lt_of_le_of_lt le fits))
    (isNearest_ofNat (Nat.lt_of_lt_of_le pos le) fits) (isNearest_powerOfTen small)
    (isNearest_powerOfTen small') (by exact_mod_cast le) (by exact_mod_cast le')
    (isFinite_greatest (Nat.le_max_right _ _) small')

theorem scaled?_isSome_of_neg (negative : power < 0) : (scaled? n power).isSome := by
  unfold scaled?
  simp only [if_pos negative]
  split <;> rfl

/-- Digits of a number below the ceiling are not refused. -/
theorem scaled?_isSome (short : n < 10 ^ 18)
    (below : 0 ≤ power → n * 10 ^ power.toNat ≤ ceiling) : (scaled? n power).isSome := by
  by_cases negative : power < 0
  · exact scaled?_isSome_of_neg negative
  · unfold scaled?
    simp only [if_neg negative]
    by_cases zero : n = 0
    · rw [if_pos zero]
      rfl
    · have pos := Nat.pos_of_ne_zero zero
      have below := below (Int.not_lt.mp negative)
      have small : power.toNat ≤ maxPower := by
        by_contra large
        have least : 10 ^ power.toNat ≤ ceiling :=
          Nat.le_trans (Nat.le_mul_of_pos_left _ pos) below
        have ten : 10 ^ (maxPower + 1) ≤ ceiling :=
          Nat.le_trans (Nat.pow_le_pow_right (by decide) (Nat.not_le.mp large)) least
        exact absurd ten (by decide +kernel)
      have le : n ≤ greatest (max power.toNat harmless) := by
        apply le_min short.le
        rw [Nat.le_div_iff_mul_le (Nat.pow_pos (by decide))]
        rcases le_total harmless power.toNat with large | few
        · rwa [max_eq_left large]
        · rw [max_eq_right few]
          have many : 10 ^ 18 * 10 ^ harmless ≤ ceiling := by decide +kernel
          exact Nat.le_trans (Nat.mul_le_mul_right (10 ^ harmless) short.le) many
      rw [if_neg zero, if_neg (Nat.not_lt.mpr small),
        if_pos (isFinite_mul_powerOfTen pos small le)]
      rfl

/-- What is written of a float but the greatest is below the ceiling. -/
theorem shortest_le_ceiling (valid : Representable m e) (most : e ≤ 971)
    (other : ¬(e = 971 ∧ m = 2 * hiddenBit - 1)) (tie : Tie)
    (whole : 0 ≤ (shortest tie m e).exponent) :
    (shortest tie m e).coefficient * 10 ^ (shortest tie m e).exponent.toNat ≤ ceiling := by
  have lt := valid.lt
  have last : Representable (2 * hiddenBit - 1) 971 :=
    ⟨by decide, by decide, by decide, fun _ => by decide⟩
  have gap := high_le_low valid last (by omega)
  have reach := (shortest_covers tie valid).bounds.2.trans gap
  have cast (a b k l : Nat) (le : (a : ℚ) * 10 ^ k ≤ b * 2 ^ l) : a * 10 ^ k ≤ b * 2 ^ l := by
    exact_mod_cast le
  generalize shortest tie m e = s at *
  obtain ⟨k, exponent⟩ := Int.eq_ofNat_of_zero_le whole
  rw [Scaled.value, exponent, zpow_natCast, show (971 - 2 : Int) = (969 : Nat) from rfl,
    zpow_natCast] at reach
  rw [exponent, Int.toNat_natCast]
  exact cast s.coefficient _ k 969 reach

/-- The digits of a finite float are not refused. -/
theorem scaled?_written_isSome (valid : m = 0 ∨ Representable m e) (most : e ≤ 971) :
    (scaled? (written m e).coefficient (written m e).exponent).isSome := by
  unfold written
  split
  · rfl
  · next nonzero =>
    have valid := valid.resolve_left nonzero
    by_cases last : e = 971 ∧ m = 2 * hiddenBit - 1
    · obtain ⟨rfl, rfl⟩ := last
      decide +kernel
    · have short := shortest_coefficient_lt Layout.json.tie valid
      unfold spelled
      split
      · exact scaled?_isSome_of_neg (show (-1 : Int) < 0 by decide)
      · exact scaled?_isSome short (shortest_le_ceiling valid most last _)

/-- Every finite float is read as some float. -/
theorem reread?_isSome {x : Float} (finite : Decimal.isFinite x) : (reread? x).isSome := by
  unfold Decimal.isFinite at finite
  split at finite
  · next negative m e parts =>
    have valid := (representable_of_finite parts).imp_left And.left
    unfold reread?
    rw [parts]
    simp only [Option.isSome_map, scaled?_written_isSome valid (eq_pack parts).1]
  · cases finite

end Statbook.Json
