import Mathlib.Algebra.Order.Field.Rat
import Mathlib.Algebra.Order.Field.Power
import Mathlib.Tactic.FieldSimp
import Mathlib.Tactic.Linarith
import Mathlib.Tactic.NormNum
import Mathlib.Tactic.Positivity
import Mathlib.Tactic.Ring
import Statbook.Decimal.Shortest

/-!
# The shortest decimal of a float

The search for the shortest decimal ends with one that rounds to the float, and no decimal
rounds to two floats. So the decimal determines the float.
-/

namespace Statbook.Decimal

/-- The number that a coefficient and a power of ten stand for. -/
def Scaled.value (s : Scaled) : ℚ := s.coefficient * (10 : ℚ) ^ s.exponent

/-- The number `v` rounds to the float whose rounding is measured in quarters of
`2 ^ exponent`. -/
def Rounding.Covers (r : Rounding) (exponent : Int) (v : ℚ) : Prop :=
  if r.closed then
    r.low * (2 : ℚ) ^ (exponent - 2) ≤ v ∧ v ≤ r.high * (2 : ℚ) ^ (exponent - 2)
  else r.low * (2 : ℚ) ^ (exponent - 2) < v ∧ v < r.high * (2 : ℚ) ^ (exponent - 2)

/-- A number that rounds to a float lies between the ends of its interval. -/
theorem Rounding.Covers.bounds {r : Rounding} {exponent : Int} {v : ℚ}
    (covers : r.Covers exponent v) :
    r.low * (2 : ℚ) ^ (exponent - 2) ≤ v ∧ v ≤ r.high * (2 : ℚ) ^ (exponent - 2) := by
  unfold Covers at covers
  split at covers
  · exact covers
  · exact ⟨covers.1.le, covers.2.le⟩

theorem gridRatio_pos (exponent grid : Int) :
    0 < (gridRatio exponent grid).1 ∧ 0 < (gridRatio exponent grid).2 :=
  ⟨Nat.mul_pos (Nat.pow_pos (by decide)) (Nat.pow_pos (by decide)),
    Nat.mul_pos (Nat.pow_pos (by decide)) (Nat.pow_pos (by decide))⟩

/-- A power with an integer exponent is a quotient of powers with natural ones. -/
theorem zpow_mul_pow_toNat_neg {b : ℚ} (nonzero : b ≠ 0) (n : Int) :
    b ^ n * b ^ (-n).toNat = b ^ n.toNat := by
  rw [← zpow_natCast, ← zpow_natCast, ← zpow_add₀ nonzero]
  congr 1
  omega

/-- The ratio of a grid turns quarters of the last place into steps of the grid. -/
theorem gridRatio_spec (exponent grid : Int) :
    ((gridRatio exponent grid).1 : ℚ) * (10 : ℚ) ^ grid =
      (gridRatio exponent grid).2 * (2 : ℚ) ^ (exponent - 2) := by
  have two := zpow_mul_pow_toNat_neg (b := 2) (by norm_num) (exponent - 2)
  have ten := zpow_mul_pow_toNat_neg (b := 10) (by norm_num) grid
  rw [show -(exponent - 2) = 2 - exponent by omega] at two
  simp only [gridRatio, Nat.pow_eq]
  push_cast
  rw [← two, ← ten]
  ring

/-- A step of the grid lies in the interval exactly when its number rounds to the float. -/
theorem holds_iff_covers (r : Rounding) (exponent grid : Int) (candidate : Nat) :
    r.holds (gridRatio exponent grid).1 (gridRatio exponent grid).2 candidate ↔
      r.Covers exponent (Scaled.value ⟨candidate, grid⟩) := by
  have spec := gridRatio_spec exponent grid
  obtain ⟨-, denPos⟩ := gridRatio_pos exponent grid
  generalize (gridRatio exponent grid).1 = num at spec ⊢
  generalize (gridRatio exponent grid).2 = den at spec denPos ⊢
  have denPos : (0 : ℚ) < den := by exact_mod_cast denPos
  have tenPos : (0 : ℚ) < (10 : ℚ) ^ grid := by positivity
  have scale (a : ℚ) : den * (a * (2 : ℚ) ^ (exponent - 2)) = (a * num) * (10 : ℚ) ^ grid := by
    rw [mul_left_comm, ← spec]
    ring
  have scale' : den * ((candidate : ℚ) * (10 : ℚ) ^ grid) = (candidate * den) * (10 : ℚ) ^ grid := by
    ring
  have le_left (a : Nat) : a * (2 : ℚ) ^ (exponent - 2) ≤ candidate * (10 : ℚ) ^ grid ↔
      a * num ≤ candidate * den := by
    rw [← mul_le_mul_iff_right₀ denPos, scale, scale', mul_le_mul_iff_left₀ tenPos]
    exact_mod_cast Iff.rfl
  have le_right (a : Nat) : candidate * (10 : ℚ) ^ grid ≤ a * (2 : ℚ) ^ (exponent - 2) ↔
      candidate * den ≤ a * num := by
    rw [← mul_le_mul_iff_right₀ denPos, scale, scale', mul_le_mul_iff_left₀ tenPos]
    exact_mod_cast Iff.rfl
  have lt_left (a : Nat) : a * (2 : ℚ) ^ (exponent - 2) < candidate * (10 : ℚ) ^ grid ↔
      a * num < candidate * den := by
    rw [← not_le, ← not_le, le_right]
  have lt_right (a : Nat) : candidate * (10 : ℚ) ^ grid < a * (2 : ℚ) ^ (exponent - 2) ↔
      candidate * den < a * num := by
    rw [← not_le, ← not_le, le_left]
  unfold Rounding.holds Rounding.Covers Scaled.value
  cases r.closed with
  | true => simp [le_left, le_right]
  | false => simp [lt_left, lt_right]

/-- What is taken on a grid lies in the interval. -/
theorem holds_of_nearest {r : Rounding} {tie : Tie} {num den candidate : Nat}
    (found : r.nearest? tie num den = some candidate) : r.holds num den candidate := by
  unfold Rounding.nearest? at found
  cases below : r.holds num den (r.middle * num / den) with
  | false =>
    cases above : r.holds num den (r.middle * num / den + 1) with
    | false => simp [below, above] at found
    | true =>
      simp only [below, above, Option.some.injEq] at found
      exact found ▸ above
  | true =>
    cases above : r.holds num den (r.middle * num / den + 1) with
    | false =>
      simp only [below, above, Option.some.injEq] at found
      exact found ▸ below
    | true =>
      -- Both neighbours lie in the interval, and each of the choices is one of them.
      have either : candidate = r.middle * num / den ∨ candidate = r.middle * num / den + 1 := by
        simp only [below, above] at found
        cases tie with
        | awayFromZero => grind
        | toEven => grind
      rcases either with rfl | rfl
      · exact below
      · exact above

/-- Nothing is taken on a grid exactly when neither neighbour of the middle lies in the interval. -/
theorem nearest_eq_none_iff {r : Rounding} {tie : Tie} {num den : Nat} :
    r.nearest? tie num den = none ↔ r.holds num den (r.middle * num / den) = false ∧
      r.holds num den (r.middle * num / den + 1) = false := by
  unfold Rounding.nearest?
  cases below : r.holds num den (r.middle * num / den) with
  | false => cases above : r.holds num den (r.middle * num / den + 1) <;> simp [below, above]
  | true =>
    cases above : r.holds num den (r.middle * num / den + 1) with
    | false => simp [below, above]
    | true => cases tie <;> simp only [below, above] <;> grind

/-- A grid that holds the float itself has a step in the interval. -/
theorem nearest_isSome_of_dvd {r : Rounding} {tie : Tie} {num den : Nat} (numPos : 0 < num)
    (lower : r.low < r.middle) (upper : r.middle < r.high) (exact : den ∣ r.middle * num) :
    (r.nearest? tie num den).isSome := by
  have float : r.middle * num / den * den = r.middle * num := Nat.div_mul_cancel exact
  have below : r.holds num den (r.middle * num / den) := by
    have low := Nat.mul_lt_mul_of_pos_right lower numPos
    have high := Nat.mul_lt_mul_of_pos_right upper numPos
    unfold Rounding.holds
    cases r.closed with
    | true => simp [float, low.le, high.le]
    | false => simp [float, low, high]
  rw [Option.isSome_iff_ne_none]
  intro none
  rw [(nearest_eq_none_iff.mp none).1] at below
  cases below

/-- The search ends on a grid that has a step in the interval, if it comes to one. -/
theorem search_covers {r : Rounding} {tie : Tie} {exponent : Int} {tries : Nat} {grid : Int}
    (meets : ∃ k < tries, (r.nearest? tie (gridRatio exponent (grid - k)).1
      (gridRatio exponent (grid - k)).2).isSome) :
    r.Covers exponent (r.search tie exponent tries grid).value := by
  induction tries generalizing grid with
  | zero =>
    obtain ⟨k, impossible, -⟩ := meets
    exact absurd impossible (Nat.not_lt_zero k)
  | succ tries ih =>
    unfold Rounding.search
    simp only
    cases found : r.nearest? tie (gridRatio exponent grid).1 (gridRatio exponent grid).2 with
    | some coefficient =>
      exact (holds_iff_covers r exponent grid coefficient).mp (holds_of_nearest found)
    | none =>
      apply ih
      obtain ⟨k, below, some⟩ := meets
      cases k with
      | zero => simp [found] at some
      | succ k =>
        refine ⟨k, Nat.lt_of_succ_lt_succ below, ?_⟩
        rwa [show grid - 1 - (k : Int) = grid - ((k + 1 : Nat) : Int) by omega]

/-- The mantissas and exponents of the positive finite floats. -/
structure Representable (mantissa : Nat) (exponent : Int) : Prop where
  pos : 0 < mantissa
  lt : mantissa < 2 * hiddenBit
  least : -1074 ≤ exponent
  full : exponent ≠ -1074 → hiddenBit ≤ mantissa

theorem two_pow_dvd_four_mul_ten_pow (n : Nat) : 2 ^ (n + 2) ∣ 4 * 10 ^ n := by
  refine ⟨5 ^ n, ?_⟩
  rw [show (10 : Nat) = 2 * 5 from rfl, Nat.mul_pow, Nat.pow_add]
  ring

/-- The grid of the least float holds every float. -/
theorem dvd_on_finest_grid (mantissa : Nat) {exponent : Int} (least : -1074 ≤ exponent) :
    (gridRatio exponent (-1074)).2 ∣ 4 * mantissa * (gridRatio exponent (-1074)).1 := by
  have general (n : Nat) (least : -(n : Int) ≤ exponent) :
      (gridRatio exponent (-n)).2 ∣ 4 * mantissa * (gridRatio exponent (-n)).1 := by
    have two : 2 ^ (2 - exponent).toNat ∣ 4 * 10 ^ n :=
      (Nat.pow_dvd_pow 2 (by omega)).trans (two_pow_dvd_four_mul_ten_pow n)
    simp only [gridRatio, Nat.pow_eq, Int.neg_neg, Int.toNat_natCast, Int.toNat_neg_natCast,
      Nat.pow_zero, Nat.mul_one]
    rw [show 4 * mantissa * (2 ^ (exponent - 2).toNat * 10 ^ n) =
      4 * 10 ^ n * (mantissa * 2 ^ (exponent - 2).toNat) by ring]
    exact two.mul_right _
  exact general 1074 least

/-- The shortest decimal of a float rounds to it. -/
theorem shortest_covers (tie : Tie) {mantissa : Nat} {exponent : Int}
    (valid : Representable mantissa exponent) :
    (Rounding.around mantissa exponent).Covers exponent (shortest tie mantissa exponent).value := by
  have pos := valid.pos
  apply search_covers
  refine ⟨_, Nat.lt_succ_self _, nearest_isSome_of_dvd (gridRatio_pos ..).1 ?_ ?_ ?_⟩
  · simp only [Rounding.around]
    split <;> omega
  · simp only [Rounding.around]
    omega
  · rw [Nat.cast_add, sub_add_cancel_left]
    exact dvd_on_finest_grid mantissa valid.least

/-- A number that two floats share lies no higher than the interval of the one and no lower
than that of the other; on the edge of an open interval there is none. -/
theorem low_le_high_of_covers {r r' : Rounding} {exponent : Int} {k : Nat} {v : ℚ}
    (covers : r.Covers exponent v) (covers' : r'.Covers (exponent + k) v) :
    r'.low * 2 ^ k ≤ r.high ∧ (¬(r.closed ∧ r'.closed) → r'.low * 2 ^ k < r.high) := by
  have unit : (2 : ℚ) ^ (exponent + k - 2) = 2 ^ k * (2 : ℚ) ^ (exponent - 2) := by
    rw [← zpow_natCast, ← zpow_add₀ (by norm_num)]
    congr 1
    omega
  have unitPos : (0 : ℚ) < (2 : ℚ) ^ (exponent - 2) := by positivity
  have le_of_le (h : r'.low * (2 : ℚ) ^ (exponent + k - 2) ≤ v)
      (h' : v ≤ r.high * (2 : ℚ) ^ (exponent - 2)) : r'.low * 2 ^ k ≤ r.high := by
    rw [unit, ← mul_assoc] at h
    exact_mod_cast (mul_le_mul_iff_left₀ unitPos).mp (h.trans h')
  have lt_of_lt (h : r'.low * (2 : ℚ) ^ (exponent + k - 2) < r.high * (2 : ℚ) ^ (exponent - 2)) :
      r'.low * 2 ^ k < r.high := by
    rw [unit, ← mul_assoc] at h
    exact_mod_cast (mul_lt_mul_iff_left₀ unitPos).mp h
  unfold Rounding.Covers at covers covers'
  cases closed : r.closed with
  | true =>
    cases closed' : r'.closed with
    | true =>
      simp only [closed, closed', if_true] at covers covers'
      exact ⟨le_of_le covers'.1 covers.2, fun either => absurd ⟨rfl, rfl⟩ either⟩
    | false =>
      simp only [closed, closed', if_true, Bool.false_eq_true, if_false] at covers covers'
      exact ⟨le_of_le covers'.1.le covers.2, fun _ => lt_of_lt (covers'.1.trans_le covers.2)⟩
  | false =>
    cases closed' : r'.closed with
    | true =>
      simp only [closed, closed', if_true, Bool.false_eq_true, if_false] at covers covers'
      exact ⟨le_of_le covers'.1 covers.2.le, fun _ => lt_of_lt (covers'.1.trans_lt covers.2)⟩
    | false =>
      simp only [closed, closed', Bool.false_eq_true, if_false] at covers covers'
      exact ⟨le_of_le covers'.1.le covers.2.le, fun _ => lt_of_lt (covers'.1.trans covers.2)⟩

/-- The lower end of an interval is half a place below the float, or a quarter below a power of
two that is not the least one. -/
theorem low_around (mantissa : Nat) (exponent : Int) :
    (Rounding.around mantissa exponent).low = 4 * mantissa - 1 ∧ mantissa = hiddenBit ∨
      (Rounding.around mantissa exponent).low = 4 * mantissa - 2 ∧
        (mantissa ≠ hiddenBit ∨ exponent = -1074) := by
  simp only [Rounding.around]
  split
  · rename_i power
    exact Or.inl ⟨rfl, power.1⟩
  · rename_i other
    exact Or.inr ⟨rfl, by omega⟩

/-- Of two floats with the same number, the one with the lesser exponent is the other. -/
theorem eq_of_covers_of_le {mantissa mantissa' : Nat} {exponent exponent' : Int} {v : ℚ}
    (valid : Representable mantissa exponent) (valid' : Representable mantissa' exponent')
    (covers : (Rounding.around mantissa exponent).Covers exponent v)
    (covers' : (Rounding.around mantissa' exponent').Covers exponent' v)
    (order : exponent < exponent' ∨ exponent = exponent' ∧ mantissa ≤ mantissa') :
    mantissa = mantissa' ∧ exponent = exponent' := by
  have pos' := valid'.pos
  have lt := valid.lt
  have least := valid.least
  have full' := valid'.full
  obtain ⟨k, rfl⟩ : ∃ k : Nat, exponent' = exponent + k :=
    ⟨(exponent' - exponent).toNat, by omega⟩
  obtain ⟨weak, strict⟩ := low_le_high_of_covers covers covers'
  have low := low_around mantissa' (exponent + k)
  generalize (Rounding.around mantissa' (exponent + k)).low = lower at weak strict low
  have open_iff : (Rounding.around mantissa exponent).closed ↔ mantissa % 2 = 0 := by
    simp [Rounding.around]
  have open_iff' : (Rounding.around mantissa' (exponent + k)).closed ↔ mantissa' % 2 = 0 := by
    simp [Rounding.around]
  rw [open_iff, open_iff'] at strict
  change lower * 2 ^ k ≤ 4 * mantissa + 2 at weak
  change _ → lower * 2 ^ k < 4 * mantissa + 2 at strict
  unfold hiddenBit at *
  cases k with
  | zero =>
    rw [Nat.pow_zero, Nat.mul_one] at weak strict
    refine ⟨?_, by omega⟩
    omega
  | succ k =>
    -- The lower end of the higher float is at least the upper end of the lower one, and where
    -- they meet the mantissa of the lower one is odd.
    exfalso
    have full' := full' (by omega)
    have double : lower * 2 ≤ lower * 2 ^ (k + 1) :=
      Nat.mul_le_mul_left lower (Nat.le_self_pow (Nat.succ_ne_zero k) 2)
    omega

/-- No number rounds to two floats. -/
theorem eq_of_covers {mantissa mantissa' : Nat} {exponent exponent' : Int} {v : ℚ}
    (valid : Representable mantissa exponent) (valid' : Representable mantissa' exponent')
    (covers : (Rounding.around mantissa exponent).Covers exponent v)
    (covers' : (Rounding.around mantissa' exponent').Covers exponent' v) :
    mantissa = mantissa' ∧ exponent = exponent' := by
  by_cases order : exponent < exponent' ∨ exponent = exponent' ∧ mantissa ≤ mantissa'
  · exact eq_of_covers_of_le valid valid' covers covers' order
  · obtain ⟨same, same'⟩ := eq_of_covers_of_le valid' valid covers' covers (by omega)
    exact ⟨same.symm, same'.symm⟩

end Statbook.Decimal
