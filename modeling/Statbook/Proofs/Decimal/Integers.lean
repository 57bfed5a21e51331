import Statbook.Proofs.Decimal.ReadBack

/-!
# Integers as floats

An integer other than zero rounds to a float other than zero, so a float that an integer was made
into is compared with zero as the integer itself.
-/

namespace Statbook.Decimal

open Float.Model Float.Model.UnpackedFloat

/-- A number of at least as many bits as a float rounds to a float of full mantissa. -/
theorem exists_covers_of_full {n : Nat} {scale : Int} (full : hiddenBit ≤ n)
    (least : -1074 ≤ scale) :
    ∃ m e, hiddenBit ≤ m ∧ Representable m e ∧ scale ≤ e ∧ e ≤ n.log2 + scale - 51 ∧
      (Rounding.around m e).Covers e (n * (2 : ℚ) ^ scale) := by
  obtain ⟨k, shift, short, above⟩ := @shifted_bounds n scale (.inl full)
  have located := (locates_exact n).shiftRight k
  have value : (n : ℚ) * (2 : ℚ) ^ scale = n / 2 ^ k * (2 : ℚ) ^ (scale + k) := by
    rw [zpow_add₀ (by norm_num), zpow_natCast]
    field_simp
  have some : n ≠ 0 := Nat.ne_of_gt (Nat.lt_of_lt_of_le (by decide) full)
  have long : 52 ≤ n.log2 := (Nat.le_log2 some).mpr full
  have stillFull : hiddenBit ≤ n / 2 ^ k := by
    by_cases lowest : scale + k = -1074
    · have none : k = 0 := by omega
      rw [none, Nat.pow_zero, Nat.div_one]
      exact full
    · exact above lowest
  rw [← show (ExtendedMantissa.ofMantissaAndAccuracy n .exact).mantissa = n from rfl,
    ← mantissa_shiftRight] at short stillFull
  have rounded : hiddenBit ≤
      (ExtendedMantissa.ofMantissaAndAccuracy n .exact >>> k).roundedMantissa := by
    obtain ⟨-, -, either, -⟩ := located.rounded
    omega
  have pos := Nat.lt_of_lt_of_le (show 0 < hiddenBit by decide) rounded
  have least' : -1074 ≤ scale + (k : Int) := by omega
  rw [value]
  rcases covers_rounded located short (fun _ => stillFull) least' pos with
    ⟨-, valid, covers⟩ | ⟨-, valid, covers⟩
  · exact ⟨_, _, le_rfl, valid, by omega, by omega, covers⟩
  · exact ⟨_, _, rounded, valid, by omega, by omega, covers⟩

/-- A whole number other than zero rounds to a float, but that may have too great an exponent. -/
theorem exists_covers {c : Nat} (pos : 0 < c) :
    ∃ m e, hiddenBit ≤ m ∧ Representable m e ∧ -53 ≤ e ∧ e ≤ c.log2 - 51 ∧
      (Rounding.around m e).Covers e c := by
  -- Shifted up, the number has more bits than a float, so that rounding shifts it back.
  have full : hiddenBit ≤ c * 2 ^ 53 :=
    Nat.le_trans (by decide) (Nat.mul_le_mul_right (2 ^ 53) pos)
  have size : (c * 2 ^ 53).log2 < c.log2 + 1 + 53 := by
    rw [Nat.log2_lt (by omega), Nat.pow_add]
    exact Nat.mul_lt_mul_of_pos_right Nat.lt_log2_self (by decide)
  obtain ⟨m, e, full', valid, scale, most, covers⟩ :=
    @exists_covers_of_full (c * 2 ^ 53) (-53) full (by decide)
  have value : ((c * 2 ^ 53 : Nat) : ℚ) * (2 : ℚ) ^ (-53 : Int) = c := by
    push_cast
    norm_num
    ring
  exact ⟨m, e, full', valid, scale, by omega, value ▸ covers⟩

theorem float_ofNat_eq {c m : Nat} {e : Int} (pos : 0 < c) (valid : Representable m e)
    (covers : (Rounding.around m e).Covers e c) :
    Float.ofNat c = .ofModel (pack (unpacked .positive m e)) := by
  apply @float_ofScientific_eq m e c 0 false 0 pos rfl (by omega) (by decide) valid
  rwa [zpow_zero, mul_one]

/-- The float of an integer other than zero is no zero. -/
theorem unpack_ofInt {n : Int} (nonzero : n ≠ 0) (fits : n.natAbs < 2 ^ 64) :
    ∃ sign m e, 0 < m ∧ (Float.ofInt n).toModel.unpack = unpacked sign m e := by
  have pos : 0 < n.natAbs := Int.natAbs_pos.mpr nonzero
  obtain ⟨m, e, -, valid, -, scale, covers⟩ := exists_covers pos
  have log : n.natAbs.log2 < 64 := (Nat.log2_lt pos.ne').mpr fits
  have most : e ≤ 971 := by omega
  have magnitude := float_ofNat_eq pos valid covers
  have unpacks := unpack_pack .positive (.inr valid) most
  cases n with
  | ofNat n =>
    refine ⟨.positive, m, e, valid.pos, ?_⟩
    show (Float.ofNat n).toModel.unpack = _
    rw [show Float.ofNat n = _ from magnitude, unpacks]
  | negSucc n =>
    refine ⟨.negative, m, e, valid.pos, ?_⟩
    show (-(Float.ofNat (n + 1))).toModel.unpack = _
    rw [show Float.ofNat (n + 1) = _ from magnitude, neg_eq (.inr valid) most]
    exact unpack_pack .negative (.inr valid) most

/-- Bits are put together again from their fields. -/
theorem packComponents_unpack (b : BitVec Format.binary64.numBits) :
    packComponents .binary64 (.ofBitVec (unpackSign b)) (unpackExponent b) (unpackMantissa b) =
      b := by
  have sign (v : BitVec 1) : (Sign.ofBitVec v).toBitVec = v := by
    revert v
    decide
  simp only [packComponents, sign, unpackSign, unpackExponent, unpackMantissa, BitVec.extractLsb]
  ext i inside
  grind

/-- Only bits without an exponent and a fraction are unpacked to zero. -/
theorem eq_packComponents_of_unpack {b : BitVec Format.binary64.numBits} {sign : Sign}
    (zero : UnpackedFloat.unpack .binary64 b = .zero sign) :
    b = packComponents .binary64 sign 0#11 0#52 := by
  have bits := packComponents_unpack b
  unfold UnpackedFloat.unpack at zero
  simp only at zero
  split at zero
  · split at zero <;> cases zero
  · split at zero
    · next exponent =>
      split at zero
      · next mantissa =>
        injection zero with same
        rw [exponent, mantissa, same] at bits
        exact bits.symm
      · cases zero
    · cases zero

theorem eq_zero_of_unpack {x : Float} {sign : Sign} (zero : x.toModel.unpack = .zero sign) :
    x = .ofModel (pack (.zero sign)) := by
  apply float_eq_of_toBits
  apply UInt64.eq_of_toBitVec_eq
  exact eq_packComponents_of_unpack zero

theorem compare_zero {u : UnpackedFloat} :
    u.compare (.zero .positive) = some .eq ↔ ∃ sign, u = .zero sign := by
  constructor
  · intro equal
    cases u with
    | notANumber => cases equal
    | infinity sign => cases sign <;> cases equal
    | zero sign => exact ⟨sign, rfl⟩
    | finite sign => cases sign <;> cases equal
  · rintro ⟨sign, rfl⟩
    rfl

theorem beq_zero_iff_unpack (x : Float) :
    (x == 0.0) = true ↔ ∃ sign, x.toModel.unpack = .zero sign := by
  have bits : (0.0 : Float) = .ofModel (pack (unpacked .positive 0 (-1074))) := by decide +kernel
  have zero : (0.0 : Float).toModel.unpack = .zero .positive := by
    rw [bits]
    exact unpack_pack .positive (.inl ⟨rfl, rfl⟩) (by decide)
  show (x.toModel.unpack.compare (0.0 : Float).toModel.unpack == some .eq) = true ↔ _
  rw [zero, beq_iff_eq]
  exact compare_zero

/-- Of all floats, the two zeros are equal to zero. -/
theorem beq_zero_iff (x : Float) : (x == 0.0) = true ↔ x = 0.0 ∨ x = -0.0 := by
  constructor
  · intro equal
    obtain ⟨sign, zero⟩ := (beq_zero_iff_unpack x).mp equal
    rw [eq_zero_of_unpack zero]
    cases sign with
    | positive => exact .inl (by decide +kernel)
    | negative => exact .inr (by decide +kernel)
  · rintro (rfl | rfl) <;> decide +kernel

/-- An integer that is made into a float is compared with zero as it was before. -/
theorem ofInt_beq_zero_iff {n : Int} (fits : n.natAbs < 2 ^ 64) :
    (Float.ofInt n == 0.0) = true ↔ n = 0 := by
  constructor
  · intro equal
    by_contra nonzero
    obtain ⟨sign, zero⟩ := (beq_zero_iff_unpack _).mp equal
    obtain ⟨sign', m, e, pos, unpacks⟩ := unpack_ofInt nonzero fits
    rw [unpacks, unpacked_of_pos sign' e pos] at zero
    cases zero
  · rintro rfl
    decide +kernel

end Statbook.Decimal
