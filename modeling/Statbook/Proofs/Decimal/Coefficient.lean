import Statbook.Proofs.Decimal.Arithmetic

/-!
# Digits of a shortest decimal

The search for the shortest decimal of a float takes the first grid with a step in the interval of
the float. On the grid before it the steps were too long for the interval, so on the grid that is
taken they are not much shorter than the interval, and only so many of them reach up to the float.
-/

namespace Statbook.Decimal

variable {r : Rounding} {tie : Tie} {m : Nat} {e : Int}

/-- A grid without a step in the interval has steps as long as the interval. -/
theorem high_le_of_nearest_eq_none {num den : Nat} (numPos : 0 < num) (denPos : 0 < den)
    (lower : r.low < r.middle) (upper : r.middle < r.high)
    (none : r.nearest? tie num den = none) : r.high * num ≤ r.low * num + den := by
  have low : r.low * num < r.middle * num := Nat.mul_lt_mul_of_pos_right lower numPos
  have high : r.middle * num < r.high * num := Nat.mul_lt_mul_of_pos_right upper numPos
  have below : r.middle * num / den * den ≤ r.middle * num := Nat.div_mul_le_self _ _
  have above : r.middle * num < (r.middle * num / den + 1) * den := by
    rw [Nat.mul_comm _ den]
    exact Nat.lt_mul_div_succ _ denPos
  have step : (r.middle * num / den + 1) * den = r.middle * num / den * den + den :=
    Nat.succ_mul _ _
  obtain ⟨outside, outside'⟩ := nearest_eq_none_iff.mp none
  unfold Rounding.holds at outside outside'
  split at outside
  · next closed =>
    rw [if_pos closed] at outside'
    simp only [Bool.and_eq_false_iff, decide_eq_false_iff_not] at outside outside'
    omega
  · next opened =>
    rw [if_neg opened] at outside'
    simp only [Bool.and_eq_false_iff, decide_eq_false_iff_not] at outside outside'
    omega

/-- While the steps of the grid before are as long as three quarters of a place, the coefficient
that is found is at most three times and a third the upper end of the interval. -/
theorem search_coefficient_le (lower : r.low < r.middle) (upper : r.middle < r.high)
    (wide : r.low + 3 ≤ r.high) (tie : Tie) (tries : Nat) {grid : Int}
    (coarse : 3 * (2 : ℚ) ^ (e - 2) ≤ (10 : ℚ) ^ (grid + 1)) :
    3 * (r.search tie e tries grid).coefficient ≤ 10 * r.high := by
  induction tries generalizing grid with
  | zero => exact Nat.zero_le _
  | succ tries ih =>
    obtain ⟨numPos, denPos⟩ := gridRatio_pos e grid
    have next : (10 : ℚ) ^ (grid + 1) = 10 ^ grid * 10 := zpow_add_one₀ (by norm_num) grid
    have stepPos : (0 : ℚ) < (10 : ℚ) ^ grid := by positivity
    unfold Rounding.search
    simp only
    cases found : r.nearest? tie (gridRatio e grid).1 (gridRatio e grid).2 with
    | some coefficient =>
      have covers := (holds_iff_covers r e grid coefficient).mp (holds_of_nearest found)
      have reach := covers.bounds.2
      have scaled : 3 * (coefficient : ℚ) * 10 ^ grid ≤ 10 * r.high * 10 ^ grid := by
        calc 3 * (coefficient : ℚ) * 10 ^ grid = 3 * (Scaled.value ⟨coefficient, grid⟩) := by
              rw [Scaled.value, mul_assoc]
          _ ≤ 3 * (r.high * (2 : ℚ) ^ (e - 2)) := by gcongr
          _ = r.high * (3 * (2 : ℚ) ^ (e - 2)) := by ring
          _ ≤ r.high * (10 ^ grid * 10) := by
            rw [← next]
            gcongr
          _ = 10 * r.high * 10 ^ grid := by ring
      exact_mod_cast le_of_mul_le_mul_right scaled stepPos
    | none =>
      apply ih
      rw [sub_add_cancel]
      have long := high_le_of_nearest_eq_none numPos denPos lower upper found
      have spec := gridRatio_spec e grid
      generalize (gridRatio e grid).1 = num at *
      generalize (gridRatio e grid).2 = den at *
      have three : 3 * num ≤ den := by
        have := Nat.mul_le_mul_right num wide
        rw [Nat.add_mul] at this
        omega
      have denPos : (0 : ℚ) < den := by exact_mod_cast denPos
      have scaled : (den : ℚ) * (3 * (2 : ℚ) ^ (e - 2)) ≤ den * 10 ^ grid := by
        calc (den : ℚ) * (3 * (2 : ℚ) ^ (e - 2)) = 3 * num * 10 ^ grid := by
              rw [mul_left_comm, ← spec, mul_assoc]
          _ ≤ den * 10 ^ grid := by
            gcongr
            exact_mod_cast three
      exact le_of_mul_le_mul_left scaled denPos

/-- The search starts above the float. -/
theorem two_pow_lt_start (pos : 0 < m) :
    (2 : ℚ) ^ e < (10 : ℚ) ^
      ((Nat.toDigits 10 (m * Nat.pow 2 e.toNat / Nat.pow 2 (-e).toNat)).length : Int) := by
  have two := zpow_mul_pow_toNat_neg (show (2 : ℚ) ≠ 0 by norm_num) e
  have unitPos : 0 < 2 ^ (-e).toNat := Nat.pow_pos (by decide)
  simp only [Nat.pow_eq]
  have floor : m * 2 ^ e.toNat < 2 ^ (-e).toNat * (m * 2 ^ e.toNat / 2 ^ (-e).toNat + 1) :=
    Nat.lt_mul_div_succ _ unitPos
  generalize m * 2 ^ e.toNat / 2 ^ (-e).toNat = whole at *
  have digits : whole + 1 ≤ 10 ^ (Nat.toDigits 10 whole).length :=
    (Nat.length_toDigits_le_iff (by decide) Nat.length_toDigits_pos).mp le_rfl
  have scaled : (2 : ℚ) ^ e * 2 ^ (-e).toNat <
      10 ^ (Nat.toDigits 10 whole).length * 2 ^ (-e).toNat := by
    rw [two]
    have less : 2 ^ e.toNat < 10 ^ (Nat.toDigits 10 whole).length * 2 ^ (-e).toNat := by
      calc 2 ^ e.toNat ≤ m * 2 ^ e.toNat := Nat.le_mul_of_pos_left _ pos
        _ < 2 ^ (-e).toNat * (whole + 1) := floor
        _ ≤ 2 ^ (-e).toNat * 10 ^ (Nat.toDigits 10 whole).length := Nat.mul_le_mul_left _ digits
        _ = 10 ^ (Nat.toDigits 10 whole).length * 2 ^ (-e).toNat := Nat.mul_comm _ _
    exact_mod_cast less
  rw [zpow_natCast]
  exact lt_of_mul_lt_mul_right scaled (by positivity)

/-- The shortest decimal of a float has at most eighteen digits. -/
theorem shortest_coefficient_lt (tie : Tie) (valid : Representable m e) :
    (shortest tie m e).coefficient < 10 ^ 18 := by
  have pos := valid.pos
  have short := valid.lt
  have low := low_around m e
  have lower : (Rounding.around m e).low < (Rounding.around m e).middle := by
    show _ < 4 * m
    omega
  have upper : (Rounding.around m e).middle < (Rounding.around m e).high := by
    show 4 * m < 4 * m + 2
    omega
  have wide : (Rounding.around m e).low + 3 ≤ (Rounding.around m e).high := by
    show _ ≤ 4 * m + 2
    omega
  have coarse : 3 * (2 : ℚ) ^ (e - 2) ≤ (10 : ℚ) ^
      (((Nat.toDigits 10 (m * Nat.pow 2 e.toNat / Nat.pow 2 (-e).toNat)).length : Int) + 1) := by
    have unit : (2 : ℚ) ^ e = 4 * (2 : ℚ) ^ (e - 2) := by
      rw [zpow_sub₀ (by norm_num)]
      norm_num
      ring
    have unitPos : (0 : ℚ) < (2 : ℚ) ^ (e - 2) := by positivity
    have start := @two_pow_lt_start m e pos
    rw [zpow_add_one₀ (by norm_num)]
    linarith
  have bound := search_coefficient_le lower upper wide tie
    ((Nat.toDigits 10 (m * Nat.pow 2 e.toNat / Nat.pow 2 (-e).toNat)).length + 1075) coarse
  have high : (Rounding.around m e).high = 4 * m + 2 := rfl
  unfold hiddenBit at short
  show ((Rounding.around m e).search tie e _ _).coefficient < 10 ^ 18
  omega

/-- The shortest decimal of a float other than zero is not zero. -/
theorem shortest_coefficient_pos (tie : Tie) (valid : Representable m e) :
    0 < (shortest tie m e).coefficient := by
  apply Nat.pos_of_ne_zero
  intro zero
  apply ne_zero_of_covers valid (shortest_covers tie valid)
  rw [Scaled.value, zero, Nat.cast_zero, zero_mul]

end Statbook.Decimal
