import Statbook.Proofs.Decimal.Packed

/-!
# Products and quotients of floats

A product or a quotient of floats is the float that the exact product or quotient rounds to. A power
of ten times a whole number is computed as one of these, from two floats if they are exact and
otherwise from longer mantissas.
-/

namespace Statbook.Decimal

open Float.Model Float.Model.UnpackedFloat

variable {m₁ m₂ m : Nat} {e₁ e₂ e : Int}

/-- A product rounds to the float that the exact product rounds to. -/
theorem mul_eq (pos₁ : 0 < m₁) (pos₂ : 0 < m₂) (full : hiddenBit ≤ m₁ * m₂)
    (valid : Representable m e)
    (covers : (Rounding.around m e).Covers e (m₁ * (2 : ℚ) ^ e₁ * (m₂ * (2 : ℚ) ^ e₂))) :
    UnpackedFloat.mul .binary64 (unpacked .positive m₁ e₁) (unpacked .positive m₂ e₂) =
      unpacked .positive m e := by
  have value : m₁ * (2 : ℚ) ^ e₁ * (m₂ * (2 : ℚ) ^ e₂) =
      (m₁ * m₂ : Nat) * (2 : ℚ) ^ (e₁ + e₂) := by
    rw [zpow_add₀ (by norm_num)]
    push_cast
    ring
  rw [value] at covers
  rw [unpacked_of_pos _ _ pos₁, unpacked_of_pos _ _ pos₂]
  exact roundWithAccuracy_eq (locates_exact _) (.inl full) valid covers .positive

/-- What is left over after a division tells where the exact quotient lies. -/
theorem locates_quotient {q r d : Nat} (below : r < d) :
    Locates (.ofMantissaAndAccuracy q (accuracyOfFraction r d)) (q + r / d : ℚ) := by
  have pos : (0 : ℚ) < d := by exact_mod_cast Nat.zero_lt_of_lt below
  unfold accuracyOfFraction
  split
  · next zero => simp [Locates, ExtendedMantissa.ofMantissaAndAccuracy, zero]
  · next nonzero =>
    have some : (0 : ℚ) < r / d := div_pos (by exact_mod_cast Nat.pos_of_ne_zero nonzero) pos
    have less : (r / d : ℚ) < 1 := (div_lt_one pos).mpr (by exact_mod_cast below)
    cases order : compare (2 * r) d with
    | lt =>
      have half : (r / d : ℚ) < 1 / 2 := by
        have double : (2 * r : ℚ) < d := by exact_mod_cast Nat.compare_eq_lt.mp order
        rw [div_lt_iff₀ pos]
        linarith
      simp only [Locates, ExtendedMantissa.ofMantissaAndAccuracy, Bool.false_eq_true, if_false,
        if_true]
      constructor <;> linarith
    | eq =>
      have half : (r / d : ℚ) = 1 / 2 := by
        have double : (2 * r : ℚ) = d := by exact_mod_cast Nat.compare_eq_eq.mp order
        rw [div_eq_iff pos.ne']
        linarith
      simp only [Locates, ExtendedMantissa.ofMantissaAndAccuracy, Bool.false_eq_true, if_false,
        if_true]
      rw [half]
    | gt =>
      have half : (1 / 2 : ℚ) < r / d := by
        have double : (d : ℚ) < 2 * r := by exact_mod_cast Nat.compare_eq_gt.mp order
        rw [lt_div_iff₀ pos]
        linarith
      simp only [Locates, ExtendedMantissa.ofMantissaAndAccuracy, if_true]
      constructor <;> linarith

/-- A quotient is computed with as many bits as a float has, or on the least scale. -/
theorem quotient_fine (pos₁ : 0 < m₁) (pos₂ : 0 < m₂) {k : Nat} {scale : Int}
    (least : min (e₁ - e₂) (max (m₁.log2 + e₁ - (m₂.log2 + e₂) - 53) (-1074)) = scale)
    (shift : (e₁ - e₂ - scale).toNat = k) :
    hiddenBit ≤ m₁ <<< k / m₂ ∨ scale ≤ -1074 := by
  by_cases above : -1074 < scale
  · left
    have long : m₂.log2 + 53 ≤ m₁.log2 + k := by omega
    have lower : 2 ^ m₁.log2 ≤ m₁ := Nat.log2_self_le pos₁.ne'
    rw [Nat.le_div_iff_mul_le pos₂, Nat.shiftLeft_eq]
    calc hiddenBit * m₂ ≤ 2 ^ 52 * 2 ^ (m₂.log2 + 1) :=
          Nat.mul_le_mul_left _ (Nat.le_of_lt Nat.lt_log2_self)
      _ = 2 ^ (m₂.log2 + 53) := by rw [← Nat.pow_add]; congr 1; omega
      _ ≤ 2 ^ (m₁.log2 + k) := Nat.pow_le_pow_right (by decide) long
      _ = 2 ^ m₁.log2 * 2 ^ k := Nat.pow_add 2 _ _
      _ ≤ m₁ * 2 ^ k := Nat.mul_le_mul_right _ lower
  · exact .inr (by omega)

/-- A quotient rounds to the float that the exact quotient rounds to. -/
theorem div_eq (pos₁ : 0 < m₁) (pos₂ : 0 < m₂) (valid : Representable m e)
    (covers : (Rounding.around m e).Covers e (m₁ * (2 : ℚ) ^ e₁ / (m₂ * (2 : ℚ) ^ e₂))) :
    UnpackedFloat.div .binary64 (unpacked .positive m₁ e₁) (unpacked .positive m₂ e₂) =
      unpacked .positive m e := by
  have scaled : Format.binary64.targetExponent (totalExponent m₁ e₁ - totalExponent m₂ e₂) =
      max (m₁.log2 + e₁ - (m₂.log2 + e₂) - 53) (-1074) := by
    rw [targetExponent_eq, totalExponent, totalExponent]
    omega
  rw [unpacked_of_pos _ _ pos₁, unpacked_of_pos _ _ pos₂]
  simp only [UnpackedFloat.div, divCore, scaled]
  generalize least : min (e₁ - e₂) (max (m₁.log2 + e₁ - (m₂.log2 + e₂) - 53) (-1074)) = scale
  generalize shift : (e₁ - e₂ - scale).toNat = k
  have located := @locates_quotient (m₁ <<< k / m₂) (m₁ <<< k % m₂) m₂ (Nat.mod_lt _ pos₂)
  have pos : (m₂ : ℚ) ≠ 0 := by exact_mod_cast pos₂.ne'
  have whole : (m₁ : ℚ) * 2 ^ k = m₂ * (m₁ <<< k / m₂ : Nat) + (m₁ <<< k % m₂ : Nat) := by
    have := Nat.div_add_mod (m₁ <<< k) m₂
    rw [Nat.shiftLeft_eq] at this ⊢
    exact_mod_cast this.symm
  have value : m₁ * (2 : ℚ) ^ e₁ / (m₂ * (2 : ℚ) ^ e₂) =
      ((m₁ <<< k / m₂ : Nat) + (m₁ <<< k % m₂ : Nat) / m₂ : ℚ) * (2 : ℚ) ^ scale := by
    have quotient : ((m₁ <<< k / m₂ : Nat) + (m₁ <<< k % m₂ : Nat) / m₂ : ℚ) = m₁ * 2 ^ k / m₂ := by
      rw [whole]
      field_simp
    have powers : (2 : ℚ) ^ e₁ = 2 ^ k * (2 : ℚ) ^ scale * (2 : ℚ) ^ e₂ := by
      rw [← zpow_natCast, ← zpow_add₀ (by norm_num), ← zpow_add₀ (by norm_num)]
      congr 1
      omega
    rw [quotient, powers]
    field_simp
  rw [value] at covers
  exact roundWithAccuracy_eq located (quotient_fine pos₁ pos₂ least shift) valid covers .positive

section Floats

variable {x y : Float}

/-- The product of two floats of full mantissa. -/
theorem float_mul_eq (float : x.toModel.unpack = unpacked .positive m₁ e₁)
    (float' : y.toModel.unpack = unpacked .positive m₂ e₂) (full : hiddenBit ≤ m₁)
    (full' : hiddenBit ≤ m₂) (valid : Representable m e)
    (covers : (Rounding.around m e).Covers e (m₁ * (2 : ℚ) ^ e₁ * (m₂ * (2 : ℚ) ^ e₂))) :
    x * y = .ofModel (pack (unpacked .positive m e)) := by
  have pos : 0 < m₁ := Nat.lt_of_lt_of_le (by decide) full
  have pos' : 0 < m₂ := Nat.lt_of_lt_of_le (by decide) full'
  have long : hiddenBit ≤ m₁ * m₂ := Nat.le_trans full (Nat.le_mul_of_pos_right m₁ pos')
  show Float.ofModel (pack (UnpackedFloat.mul .binary64 x.toModel.unpack y.toModel.unpack)) = _
  rw [float, float', mul_eq pos pos' long valid covers]

/-- The quotient of two floats of full mantissa. -/
theorem float_div_eq (float : x.toModel.unpack = unpacked .positive m₁ e₁)
    (float' : y.toModel.unpack = unpacked .positive m₂ e₂) (full : hiddenBit ≤ m₁)
    (full' : hiddenBit ≤ m₂) (valid : Representable m e)
    (covers : (Rounding.around m e).Covers e (m₁ * (2 : ℚ) ^ e₁ / (m₂ * (2 : ℚ) ^ e₂))) :
    x / y = .ofModel (pack (unpacked .positive m e)) := by
  have pos : 0 < m₁ := Nat.lt_of_lt_of_le (by decide) full
  have pos' : 0 < m₂ := Nat.lt_of_lt_of_le (by decide) full'
  show Float.ofModel (pack (UnpackedFloat.div .binary64 x.toModel.unpack y.toModel.unpack)) = _
  rw [float, float', div_eq pos pos' valid covers]

end Floats

/-- A whole number times a power of ten rounds to the float that the exact number rounds to. -/
theorem ofScientific_eq {c : Nat} {power : Int} (pos : 0 < c) (low : -(2048 + c.log2) ≤ power)
    (high : power ≤ 2048) (valid : Representable m e)
    (covers : (Rounding.around m e).Covers e (c * (10 : ℚ) ^ power)) :
    UnpackedFloat.ofScientific .binary64 c power = unpacked .positive m e := by
  have notHuge : ¬power > 2 ^ Format.binary64.exponentBits := by
    show ¬power > 2048
    omega
  have notTiny : ¬power < -((2 ^ Format.binary64.exponentBits : Int) + c.log2) := by
    show ¬power < -(2048 + c.log2)
    omega
  unfold UnpackedFloat.ofScientific
  rw [dif_neg pos.ne', if_neg notHuge, if_neg notTiny]
  split
  · next whole =>
    have shifted : 0 < c <<< 53 := by
      rw [Nat.shiftLeft_eq]
      positivity
    have value : c * (10 : ℚ) ^ power = ((c <<< 53 : Nat) : ℚ) * (2 : ℚ) ^ (-53 : Int) *
        ((10 ^ power.toNat : Nat) * (2 : ℚ) ^ (0 : Int)) := by
      have ten : (10 : ℚ) ^ power = 10 ^ power.toNat := by
        rw [← zpow_natCast, Int.toNat_of_nonneg whole]
      rw [ten, Nat.shiftLeft_eq]
      push_cast
      norm_num
      ring
    have full : hiddenBit ≤ c <<< 53 * 10 ^ power.toNat := by
      have more : hiddenBit ≤ c <<< 53 := by
        rw [Nat.shiftLeft_eq]
        exact Nat.le_trans (by decide) (Nat.mul_le_mul_right _ pos)
      exact Nat.le_trans more (Nat.le_mul_of_pos_right _ (Nat.pow_pos (by decide)))
    rw [value] at covers
    have product := mul_eq shifted (Nat.pow_pos (by decide)) full valid covers
    rw [unpacked_of_pos _ _ shifted, unpacked_of_pos _ _ (Nat.pow_pos (by decide))] at product
    exact product
  · next fractional =>
    have value : c * (10 : ℚ) ^ power =
        c * (2 : ℚ) ^ (0 : Int) / ((10 ^ (-power).toNat : Nat) * (2 : ℚ) ^ (0 : Int)) := by
      have ten : (10 : ℚ) ^ power = (10 ^ (-power).toNat)⁻¹ := by
        rw [← zpow_natCast, ← zpow_neg, Int.toNat_of_nonneg (by omega), neg_neg]
      rw [ten]
      push_cast
      simp [div_eq_mul_inv]
    rw [value] at covers
    have quotient := div_eq pos (Nat.pow_pos (by decide)) valid covers
    rw [unpacked_of_pos _ _ pos, unpacked_of_pos _ _ (Nat.pow_pos (by decide))] at quotient
    exact quotient

/-- The float is `10 ^ n`, with a full mantissa. -/
def isPowerOfTen (n : Nat) (x : Float) : Bool :=
  match Parts.ofFloat x with
  | .finite false mantissa exponent =>
    hiddenBit ≤ mantissa && mantissa * 2 ^ exponent.toNat == 10 ^ n * 2 ^ (-exponent).toNat
  | _ => false

theorem isPowerOfTen_table {n : Nat} (small : n < Float.exactlyRepresentablePowersOfTen.size) :
    isPowerOfTen n Float.exactlyRepresentablePowersOfTen[n] := by
  have all : ∀ k : Fin 23, isPowerOfTen k (Float.exactlyRepresentablePowersOfTen.getD k 0) := by
    decide +kernel
  have entry := all ⟨n, small⟩
  rwa [Array.getD_eq_getD_getElem?, Array.getElem?_eq_getElem small] at entry

theorem exists_unpack_of_isPowerOfTen {n : Nat} {x : Float} (power : isPowerOfTen n x) :
    ∃ m e, hiddenBit ≤ m ∧ m * (2 : ℚ) ^ e = 10 ^ n ∧
      x.toModel.unpack = unpacked .positive m e := by
  unfold isPowerOfTen at power
  split at power
  · next m e finite =>
    obtain ⟨full, same⟩ := Bool.and_eq_true_iff.mp power
    refine ⟨m, e, of_decide_eq_true full, ?_, unpack_eq finite⟩
    have exact : (m : ℚ) * 2 ^ e.toNat = 10 ^ n * 2 ^ (-e).toNat := by
      exact_mod_cast eq_of_beq same
    have two := zpow_mul_pow_toNat_neg (show (2 : ℚ) ≠ 0 by norm_num) e
    rw [← two, ← mul_assoc] at exact
    exact mul_right_cancel₀ (by positivity) exact
  · cases power

/-- A whole number of no more bits than a float has is a float. -/
theorem exists_unpack_toFloat {c : Nat} (pos : 0 < c) (short : c < 2 * hiddenBit) :
    ∃ m e, hiddenBit ≤ m ∧ m * (2 : ℚ) ^ e = c ∧
      c.toUInt64.toFloat.toModel.unpack = unpacked .positive m e := by
  obtain ⟨k, width, full, short'⟩ := exists_full pos short
  rw [← Nat.shiftLeft_eq] at full short'
  have valid : Representable (c <<< k) (-k) :=
    ⟨Nat.lt_of_lt_of_le (by decide) full, short', by omega, fun _ => full⟩
  have rounded : UnpackedFloat.ofNat .binary64 c = unpacked .positive (c <<< k) (-k) := by
    have order : compare (c : Int) 0 = .gt := Int.compare_eq_gt.mpr (by omega)
    have scale : max (c.log2 + 0 - 52 : Int) (-1074) = -k := by omega
    simp only [UnpackedFloat.ofNat, UnpackedFloat.ofInt, UnpackedFloat.normalize, order,
      UnpackedFloat.round, Int.toNat_natCast, targetExponent_totalExponent, scale, decreaseExponent,
      zero_sub, neg_neg]
    exact roundWithAccuracy_self valid .positive
  have same : c.toUInt64.toFloat.toModel = pack (UnpackedFloat.ofNat .binary64 c) := by
    have number : c.toUInt64.toNat = c := Nat.mod_eq_of_lt (Nat.lt_trans short (by decide))
    show pack (UnpackedFloat.ofNat .binary64 c.toUInt64.toNat) = _
    rw [number]
  refine ⟨c <<< k, -k, full, ?_, ?_⟩
  · rw [Nat.shiftLeft_eq, zpow_neg, zpow_natCast]
    push_cast
    field_simp
  · rw [same, rounded]
    exact unpack_pack _ (.inr valid) (by omega)

/-- The float of a decimal is the one that the decimal rounds to, whether it is computed from two
floats or from longer mantissas. -/
theorem float_ofScientific_eq {c n : Nat} {fractional : Bool} {power : Int} (pos : 0 < c)
    (signed : power = if fractional then -(n : Int) else n) (low : -(2048 + c.log2) ≤ power)
    (high : power ≤ 2048) (valid : Representable m e)
    (covers : (Rounding.around m e).Covers e (c * (10 : ℚ) ^ power)) :
    Float.ofScientific c fractional n = .ofModel (pack (unpacked .positive m e)) := by
  unfold Float.ofScientific
  split
  · next fast =>
    obtain ⟨m₁, e₁, full, value, float⟩ := exists_unpack_toFloat pos fast.1
    have small : n < Float.exactlyRepresentablePowersOfTen.size := Nat.lt_succ_of_le fast.2
    obtain ⟨m₂, e₂, full', value', float'⟩ :=
      exists_unpack_of_isPowerOfTen (isPowerOfTen_table small)
    cases fractional with
    | true =>
      have ratio : c * (10 : ℚ) ^ power = m₁ * (2 : ℚ) ^ e₁ / (m₂ * (2 : ℚ) ^ e₂) := by
        rw [value, value', signed, if_pos rfl, zpow_neg, zpow_natCast, div_eq_mul_inv]
      rw [ratio] at covers
      exact float_div_eq float float' full full' valid covers
    | false =>
      have exact : c * (10 : ℚ) ^ power = m₁ * (2 : ℚ) ^ e₁ * (m₂ * (2 : ℚ) ^ e₂) := by
        rw [value, value', signed, if_neg Bool.false_ne_true, zpow_natCast]
      rw [exact] at covers
      exact float_mul_eq float float' full full' valid covers
  · have exponent : (if fractional then Int.negOfNat n else Int.ofNat n) = power := by
      rw [signed]
      cases fractional with
      | true => exact Int.negOfNat_eq
      | false => rfl
    simp only [exponent]
    show Float.ofModel (pack (UnpackedFloat.ofScientific .binary64 c power)) = _
    rw [ofScientific_eq pos low high valid covers]

/-- A number with so many digits before the point lies between powers of ten. -/
theorem toDigits_bounds {c : Nat} (pos : 0 < c) :
    10 ^ ((Nat.toDigits 10 c).length - 1) ≤ c ∧ c < 10 ^ (Nat.toDigits 10 c).length ∧
      (Nat.toDigits 10 c).length ≤ c.log2 + 1 := by
  have some : 0 < (Nat.toDigits 10 c).length := Nat.length_toDigits_pos
  have upper : c < 10 ^ (Nat.toDigits 10 c).length :=
    (Nat.length_toDigits_le_iff (by decide) some).mp le_rfl
  have lower : 10 ^ ((Nat.toDigits 10 c).length - 1) ≤ c := by
    by_cases one : (Nat.toDigits 10 c).length = 1
    · rw [one]
      exact pos
    · by_contra less
      have := (Nat.length_toDigits_le_iff (by decide) (by omega)).mpr (Nat.lt_of_not_le less)
      omega
  refine ⟨lower, upper, ?_⟩
  have power : 2 ^ ((Nat.toDigits 10 c).length - 1) ≤ c :=
    Nat.le_trans (Nat.pow_le_pow_left (by decide) _) lower
  have := (Nat.le_log2 pos.ne').mpr power
  omega

/-- What rounds to a finite float is less than the first power of two that has none. -/
theorem lt_two_pow_of_covers {v : ℚ} (valid : Representable m e) (most : e ≤ 971)
    (covers : (Rounding.around m e).Covers e v) : v < (2 : ℚ) ^ (1024 : Int) := by
  have lt := valid.lt
  have high : ((Rounding.around m e).high : ℚ) < (2 : ℚ) ^ (55 : Int) := by
    have short : (Rounding.around m e).high < 2 ^ 55 := by
      show 4 * m + 2 < 2 ^ 55
      unfold hiddenBit at lt
      omega
    rw [show (55 : Int) = (55 : Nat) from rfl, zpow_natCast]
    exact_mod_cast short
  have unit : (2 : ℚ) ^ (e - 2) ≤ (2 : ℚ) ^ (969 : Int) :=
    zpow_le_zpow_right₀ (by norm_num) (by omega)
  have edge : v ≤ (Rounding.around m e).high * (2 : ℚ) ^ (e - 2) := by
    unfold Rounding.Covers at covers
    split at covers
    · exact covers.2
    · exact covers.2.le
  calc v ≤ (Rounding.around m e).high * (2 : ℚ) ^ (e - 2) := edge
    _ < (2 : ℚ) ^ (55 : Int) * (2 : ℚ) ^ (e - 2) := by gcongr
    _ ≤ (2 : ℚ) ^ (55 : Int) * (2 : ℚ) ^ (969 : Int) := by gcongr
    _ = (2 : ℚ) ^ (1024 : Int) := by rw [← zpow_add₀ (by norm_num)]; rfl

/-- A decimal that rounds to a finite float has its first digit neither too high nor too low for
one. -/
theorem size_bounds {c : Nat} {power : Int} (pos : 0 < c) (valid : Representable m e)
    (most : e ≤ 971) (covers : (Rounding.around m e).Covers e (c * (10 : ℚ) ^ power)) :
    (Nat.toDigits 10 c).length + power ≤ 310 ∧ -330 ≤ (Nat.toDigits 10 c).length + power := by
  obtain ⟨lower, upper, -⟩ := toDigits_bounds pos
  have some : 0 < (Nat.toDigits 10 c).length := Nat.length_toDigits_pos
  generalize (Nat.toDigits 10 c).length = length at *
  have tenPos : (0 : ℚ) < (10 : ℚ) ^ power := by positivity
  constructor
  · by_contra long
    have atLeast : (10 : ℚ) ^ (310 : Int) ≤ c * (10 : ℚ) ^ power :=
      calc (10 : ℚ) ^ (310 : Int) ≤ (10 : ℚ) ^ (((length - 1 : Nat) : Int) + power) :=
            zpow_le_zpow_right₀ (by norm_num) (by omega)
        _ = ((10 ^ (length - 1) : Nat) : ℚ) * (10 : ℚ) ^ power := by
            rw [zpow_add₀ (by norm_num), zpow_natCast]
            push_cast
            rfl
        _ ≤ c * (10 : ℚ) ^ power := by gcongr
    have beyond : (2 : ℚ) ^ (1024 : Int) < (10 : ℚ) ^ (310 : Int) := by
      rw [zpow_ofNat, zpow_ofNat]
      exact_mod_cast (by decide +kernel : 2 ^ 1024 < 10 ^ 310)
    exact absurd (lt_two_pow_of_covers valid most covers) (not_lt.mpr (beyond.le.trans atLeast))
  · by_contra short
    have atMost : c * (10 : ℚ) ^ power ≤ (10 : ℚ) ^ (-331 : Int) :=
      calc c * (10 : ℚ) ^ power ≤ ((10 ^ length : Nat) : ℚ) * (10 : ℚ) ^ power := by gcongr
        _ = (10 : ℚ) ^ ((length : Int) + power) := by
            rw [zpow_add₀ (by norm_num), zpow_natCast]
            push_cast
            rfl
        _ ≤ (10 : ℚ) ^ (-331 : Int) := zpow_le_zpow_right₀ (by norm_num) (by omega)
    have beyond : (10 : ℚ) ^ (-331 : Int) < (2 : ℚ) ^ (-1075 : Int) := by
      rw [zpow_neg, zpow_neg, zpow_ofNat, zpow_ofNat]
      apply inv_strictAnti₀ (by positivity)
      exact_mod_cast (by decide +kernel : 2 ^ 1075 < 10 ^ 331)
    exact absurd (lt_of_covers valid covers) (not_lt.mpr (atMost.trans beyond.le))

/-- A decimal that rounds to a float is computed as that float. -/
theorem scale_eq {c : Nat} {power : Int} (valid : Representable m e) (most : e ≤ 971)
    (covers : (Rounding.around m e).Covers e (c * (10 : ℚ) ^ power)) :
    scale c power = .ofModel (pack (unpacked .positive m e)) := by
  have pos : 0 < c := by
    apply Nat.pos_of_ne_zero
    rintro rfl
    exact ne_zero_of_covers valid covers (by simp)
  obtain ⟨-, -, short⟩ := toDigits_bounds pos
  obtain ⟨notHigh, notLow⟩ := size_bounds pos valid most covers
  unfold scale
  simp only [if_neg pos.ne', if_neg (not_lt.mpr notHigh), if_neg (not_lt.mpr notLow)]
  split
  · next negative =>
    exact float_ofScientific_eq pos (by rw [if_pos rfl]; omega) (by omega) (by omega) valid covers
  · next whole =>
    exact float_ofScientific_eq pos (by rw [if_neg Bool.false_ne_true]; omega) (by omega) (by omega)
      valid covers

end Statbook.Decimal
