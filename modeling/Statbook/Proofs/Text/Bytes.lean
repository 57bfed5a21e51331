/-!
# The bytes of a text

The order of texts by their characters is the order of their UTF-8 bytes.
-/

namespace Statbook.Text

/-- The UTF-8 bytes of a text. -/
def bytes (s : String) : List UInt8 :=
  s.toUTF8.toList

theorem byteArray_loop_eq (data : ByteArray) (i : Nat) (taken : List UInt8) :
    ByteArray.toList.loop data i taken = taken.reverse ++ data.data.toList.drop i := by
  fun_induction ByteArray.toList.loop data i taken with
  | case1 i taken inside ih =>
    have inside' : i < data.data.toList.length := by simpa using inside
    rw [ih, List.drop_eq_getElem_cons inside']
    simp [ByteArray.get!, inside]
  | case2 i taken outside =>
    rw [List.drop_eq_nil_of_le (by simpa using Nat.le_of_not_lt outside)]
    simp

theorem byteArray_toList_eq (data : ByteArray) : data.toList = data.data.toList := by
  simp [ByteArray.toList, byteArray_loop_eq]

theorem bytes_eq_flatMap (s : String) : bytes s = s.toList.flatMap String.utf8EncodeChar := by
  rw [bytes, byteArray_toList_eq, String.toUTF8_eq_toByteArray, ← String.utf8Encode_toList,
    List.utf8Encode, List.toList_data_toByteArray]

/-- The bytes of a text determine it. -/
theorem bytes_injective {s t : String} (same : bytes s = bytes t) : s = t := by
  rw [bytes, bytes, byteArray_toList_eq, byteArray_toList_eq] at same
  exact String.toByteArray_inj.mp (ByteArray.ext (Array.toList_inj.mp same))

/-- Characters are encoded in ascending order, whatever follows them. -/
theorem utf8EncodeChar_lt {c d : Char} (less : c < d) (rest rest' : List UInt8) :
    String.utf8EncodeChar c ++ rest < String.utf8EncodeChar d ++ rest' := by
  have codes : c.val.toNat < d.val.toNat := less
  have bound : d.val.toNat < 0x110000 := by
    rcases d.valid with low | high
    · exact Nat.lt_trans low (by decide)
    · exact high.2
  have marked (k width mark : Nat) (positive : 0 < width) (fits : width + mark ≤ 256) :
      (UInt8.ofNat (k % width + mark)).toNat = k % width + mark := by
    have := Nat.mod_lt k positive
    rw [UInt8.toNat_ofNat', Nat.mod_eq_of_lt (by omega)]
  have second (k : Nat) : k / 4096 = k / 64 / 64 := by omega
  have third (k : Nat) : k / 262144 = k / 64 / 64 / 64 := by omega
  unfold String.utf8EncodeChar
  generalize c.val.toNat = m at codes
  generalize d.val.toNat = n at codes bound
  simp only []
  -- One case for each pair of lengths; a longer code starts with a greater byte.
  repeat' split
  all_goals
    simp only [List.cons_append, List.nil_append, List.cons_lt_cons_iff, UInt8.lt_iff_toNat_lt,
      ← UInt8.toNat_inj, marked _ 64 128 (by decide) (by decide),
      marked _ 32 192 (by decide) (by decide), marked _ 16 224 (by decide) (by decide),
      marked _ 8 240 (by decide) (by decide), UInt8.toNat_ofNat', second, third]
    omega

/-- Texts are ordered as their bytes are. -/
theorem flatMap_utf8EncodeChar_lt {cs ds : List Char} (less : cs < ds) :
    cs.flatMap String.utf8EncodeChar < ds.flatMap String.utf8EncodeChar := by
  induction cs generalizing ds with
  | nil =>
    cases ds with
    | nil => exact absurd less (by simp)
    | cons d ds =>
      obtain ⟨b, bs, equal⟩ := List.exists_cons_of_ne_nil (String.utf8EncodeChar_ne_nil (c := d))
      rw [List.flatMap_cons, equal]
      exact List.nil_lt_cons _ _
  | cons c cs ih =>
    cases ds with
    | nil => exact absurd less (by simp)
    | cons d ds =>
      rw [List.flatMap_cons, List.flatMap_cons]
      rcases List.cons_lt_cons_iff.mp less with first | ⟨rfl, others⟩
      · exact utf8EncodeChar_lt first _ _
      · exact List.append_left_lt (ih others)

/-- The order of texts is the order of their bytes. -/
theorem lt_iff_bytes_lt (s t : String) : s < t ↔ bytes s < bytes t := by
  constructor
  · intro less
    rw [bytes_eq_flatMap, bytes_eq_flatMap]
    exact flatMap_utf8EncodeChar_lt less
  · intro less
    apply Decidable.byContradiction
    intro notLess
    rcases Decidable.em (s = t) with rfl | other
    · exact List.lt_irrefl _ less
    · have greater : t < s := Decidable.byContradiction fun notGreater =>
        other (String.le_antisymm (String.not_lt.mp notGreater) (String.not_lt.mp notLess))
      have reversed := flatMap_utf8EncodeChar_lt greater
      rw [← bytes_eq_flatMap, ← bytes_eq_flatMap] at reversed
      exact List.lt_irrefl _ (List.lt_trans less reversed)

end Statbook.Text
