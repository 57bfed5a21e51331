import Statbook.Proofs.Decimal.FloatText
import Statbook.Proofs.Decimal.Nearest

/-!
# The bits of a float

A sign, a mantissa and an exponent in range are packed into the bits of a float and found there
again.
-/

namespace Statbook.Decimal

open Float.Model Float.Model.UnpackedFloat

theorem toNat_packComponents (sign : Sign) (field : BitVec 11) (fraction : BitVec 52) :
    (packComponents .binary64 sign field fraction).toNat =
      (sign.toBitVec.toNat * 2048 + field.toNat) * hiddenBit + fraction.toNat := by
  have field_lt := field.isLt
  have fraction_lt := fraction.isLt
  rw [packComponents, BitVec.toNat_append, BitVec.toNat_append,
    ← Nat.shiftLeft_add_eq_or_of_lt fraction_lt, ← Nat.shiftLeft_add_eq_or_of_lt field_lt,
    Nat.shiftLeft_eq, Nat.shiftLeft_eq]
  rfl

/-- What the bits of a float say when the exponent field is not the last one. -/
theorem parts_eq {x : Float} {sign : Sign} {field fraction : Nat} (below : field < 2047)
    (short : fraction < hiddenBit)
    (bits : x.toBits.toNat = (sign.toBitVec.toNat * 2048 + field) * hiddenBit + fraction) :
    Parts.ofFloat x = if field = 0 then .finite (sign == .negative) fraction (-1074)
      else .finite (sign == .negative) (fraction + hiddenBit) (field - 1075) := by
  have negative : decide (sign.toBitVec.toNat = 1) = (sign == .negative) := by
    cases sign <;> rfl
  have one : sign.toBitVec.toNat < 2 := sign.toBitVec.isLt
  have top : x.toBits.toNat / 9223372036854775808 = sign.toBitVec.toNat := by
    unfold hiddenBit at *
    omega
  have middle : x.toBits.toNat / hiddenBit % 2048 = field := by
    unfold hiddenBit at *
    omega
  have bottom : x.toBits.toNat % hiddenBit = fraction := by
    unfold hiddenBit at *
    omega
  unfold Parts.ofFloat
  simp only [Nat.pow_eq, show 2 ^ 63 = 9223372036854775808 from rfl, show 2 ^ 11 = 2048 from rfl,
    top, middle, bottom, negative, if_neg (Nat.ne_of_lt below)]

theorem unpacked_of_pos (sign : Sign) {m : Nat} (e : Int) (pos : 0 < m) :
    unpacked sign m e = .finite sign m e pos :=
  dif_neg (Nat.ne_of_gt pos)

/-- A float of full mantissa is packed without the first bit of it, any other as it is. -/
theorem pack_eq (sign : Sign) {m : Nat} {e : Int} (valid : Representable m e) (most : e ≤ 971) :
    UnpackedFloat.pack .binary64 (unpacked sign m e) =
      if hiddenBit ≤ m then packComponents .binary64 sign (.ofNat 11 (e + 1075).toNat) (.ofNat 52 m)
      else packComponents .binary64 sign 0#11 (.ofNat 52 m) := by
  have least := valid.least
  have bias :
      (e + Format.binary64.exponentBias + Format.binary64.mantissaBitsWithoutImplicit).toNat =
        (e + 1075).toNat := by
    rw [show (Format.binary64.exponentBias : Int) = 1023 from rfl,
      show (Format.binary64.mantissaBitsWithoutImplicit : Int) = 52 from rfl]
    omega
  have fits : ¬2 ^ Format.binary64.exponentBits ≤ (e + 1075).toNat + 1 := by
    show ¬2048 ≤ (e + 1075).toNat + 1
    omega
  have width : m.log2 + 1 = Format.binary64.mantissaBits ↔ hiddenBit ≤ m := by
    have lt := valid.lt
    rw [show Format.binary64.mantissaBits = 53 from rfl]
    have log : m.log2 < 53 := (Nat.log2_lt valid.pos.ne').mpr lt
    have full : 52 ≤ m.log2 ↔ 2 ^ 52 ≤ m := Nat.le_log2 valid.pos.ne'
    rw [show hiddenBit = 2 ^ 52 from rfl, ← full]
    omega
  rw [unpacked_of_pos sign e valid.pos]
  simp only [UnpackedFloat.pack, bias, if_neg fits, width]

/-- The fields of a float that is packed: of a full mantissa the exponent and what follows the first
bit, of any other no exponent and all of it. -/
theorem exists_pack_eq (sign : Sign) {m : Nat} {e : Int} (valid : Representable m e)
    (most : e ≤ 971) : ∃ (field : BitVec 11) (fraction : BitVec 52),
    UnpackedFloat.pack .binary64 (unpacked sign m e) =
        packComponents .binary64 sign field fraction ∧
      field.toNat < 2047 ∧
      (field ≠ 0#11 ∧ field.toNat = e + 1075 ∧ fraction.toNat + hiddenBit = m ∨
        field = 0#11 ∧ e = -1074 ∧ fraction.toNat = m) := by
  have lt := valid.lt
  have least := valid.least
  have full := valid.full
  rw [pack_eq sign valid most]
  split
  · next normal =>
    have field : (BitVec.ofNat 11 (e + 1075).toNat).toNat = (e + 1075).toNat :=
      Nat.mod_eq_of_lt (by omega)
    have notFirst : BitVec.ofNat 11 (e + 1075).toNat ≠ 0#11 := by
      intro first
      rw [first] at field
      have : (0#11).toNat = 0 := rfl
      omega
    have fraction : (BitVec.ofNat 52 m).toNat + hiddenBit = m := by
      rw [BitVec.toNat_ofNat]
      unfold hiddenBit at *
      omega
    exact ⟨_, _, rfl, by omega, .inl ⟨notFirst, by omega, fraction⟩⟩
  · next subnormal =>
    have fraction : (BitVec.ofNat 52 m).toNat = m := Nat.mod_eq_of_lt (Nat.lt_of_not_le subnormal)
    exact ⟨_, _, rfl, by decide, .inr ⟨rfl, by omega, fraction⟩⟩

theorem pack_zero (sign : Sign) (e : Int) :
    UnpackedFloat.pack .binary64 (unpacked sign 0 e) = packComponents .binary64 sign 0#11 0#52 :=
  rfl

/-- A float that is packed is found in its bits again. -/
theorem parts_pack (sign : Sign) {m : Nat} {e : Int}
    (valid : m = 0 ∧ e = -1074 ∨ Representable m e) (most : e ≤ 971) :
    Parts.ofFloat (.ofModel (pack (unpacked sign m e))) = .finite (sign == .negative) m e := by
  have bits : (Float.ofModel (pack (unpacked sign m e))).toBits.toNat =
      (UnpackedFloat.pack .binary64 (unpacked sign m e)).toNat := rfl
  rcases valid with ⟨rfl, rfl⟩ | valid
  · rw [pack_zero, toNat_packComponents] at bits
    rw [parts_eq (by decide) (by decide) bits]
    rfl
  · obtain ⟨field, fraction, packed, below, fields⟩ := exists_pack_eq sign valid most
    rw [packed, toNat_packComponents] at bits
    rw [parts_eq below fraction.isLt bits]
    rcases fields with ⟨notFirst, scale, rfl⟩ | ⟨rfl, rfl, rfl⟩
    · have other : field.toNat ≠ 0 := fun zero => notFirst (BitVec.eq_of_toNat_eq zero)
      rw [if_neg other, scale, Int.add_sub_cancel]
    · rfl

/-- Packed bits are unpacked to a mantissa with its first bit, unless the exponent field is the
first. -/
theorem unpack_packComponents (sign : Sign) {field : BitVec 11} (fraction : BitVec 52)
    (below : field.toNat < 2047) :
    UnpackedFloat.unpack .binary64 (packComponents .binary64 sign field fraction) =
      if field = 0#11 then unpacked sign fraction.toNat (-1074)
      else unpacked sign (fraction.toNat + hiddenBit) (field.toNat - 1075) := by
  have notLast : field ≠ -1#11 := by
    rintro rfl
    exact absurd below (by decide)
  have bias : (Format.binary64.exponentBias : Int) + Format.binary64.mantissaBitsWithoutImplicit =
      1075 := rfl
  simp only [UnpackedFloat.unpack, unpackExponent_packComponents, unpackMantissa_packComponents,
    unpackSign_packComponents, Sign.ofBitVec_toBitVec, if_neg notLast, bias]
  split
  · next first =>
    subst first
    split
    · next zero =>
      rw [zero]
      rfl
    · next nonzero =>
      have pos : 0 < fraction.toNat :=
        Nat.pos_of_ne_zero fun zero => nonzero (BitVec.eq_of_toNat_eq zero)
      rw [unpacked_of_pos _ _ pos]
      rfl
  · have implicit : (1#1 ++ fraction).toNat = fraction.toNat + hiddenBit := by
      rw [BitVec.toNat_append, ← Nat.shiftLeft_add_eq_or_of_lt fraction.isLt, Nat.add_comm]
      rfl
    rw [unpacked_of_pos _ _ (by unfold hiddenBit; omega)]
    congr

/-- A float that is packed is unpacked as it was. -/
theorem unpack_pack (sign : Sign) {m : Nat} {e : Int}
    (valid : m = 0 ∧ e = -1074 ∨ Representable m e) (most : e ≤ 971) :
    (pack (unpacked sign m e)).unpack = unpacked sign m e := by
  have bits : (pack (unpacked sign m e)).unpack =
      UnpackedFloat.unpack .binary64 (UnpackedFloat.pack .binary64 (unpacked sign m e)) := rfl
  rcases valid with ⟨rfl, rfl⟩ | valid
  · rw [bits, pack_zero, unpack_packComponents _ _ (by decide)]
    rfl
  · obtain ⟨field, fraction, packed, below, fields⟩ := exists_pack_eq sign valid most
    rw [bits, packed, unpack_packComponents _ _ below]
    rcases fields with ⟨notFirst, scale, rfl⟩ | ⟨rfl, rfl, rfl⟩
    · rw [if_neg notFirst, scale, Int.add_sub_cancel]
    · rfl

/-- What the bits of a finite float say is what it is packed from. -/
theorem eq_pack {x : Float} {negative : Bool} {m : Nat} {e : Int}
    (finite : Parts.ofFloat x = .finite negative m e) :
    e ≤ 971 ∧ x = .ofModel (pack (unpacked (if negative then .negative else .positive) m e)) := by
  have most : e ≤ 971 := by
    rcases (bits_of_finite finite).2 with ⟨-, -, least⟩ | ⟨field, -, below, -, -, scale⟩ <;> omega
  refine ⟨most, float_eq_of_parts finite ?_⟩
  rw [parts_pack _ (representable_of_finite finite) most]
  cases negative <;> rfl

/-- What the bits of a finite float say is what it is unpacked to. -/
theorem unpack_eq {x : Float} {negative : Bool} {m : Nat} {e : Int}
    (finite : Parts.ofFloat x = .finite negative m e) :
    x.toModel.unpack = unpacked (if negative then .negative else .positive) m e := by
  obtain ⟨most, same⟩ := eq_pack finite
  rw [same]
  exact unpack_pack _ (representable_of_finite finite) most

end Statbook.Decimal
