import Statbook.Proofs.Decimal.Layout

/-!
# Floats by their texts

A finite float is determined by its sign, mantissa and exponent, and these by its text. All
floats that are not finite lack a JSON number.
-/

namespace Statbook.Decimal

/-- A float is determined by its bits. -/
theorem float_eq_of_toBits {x y : Float} (same : x.toBits = y.toBits) : x = y := by
  obtain ⟨⟨bits, valid⟩⟩ := x
  obtain ⟨⟨bits', valid'⟩⟩ := y
  have same : bits = bits' := same
  subst same
  rfl

/-- What the bits of a finite float say. -/
theorem bits_of_finite {x : Float} {negative : Bool} {mantissa : Nat} {exponent : Int}
    (finite : Parts.ofFloat x = .finite negative mantissa exponent) :
    x.toBits.toNat / 9223372036854775808 = negative.toNat ∧
      (x.toBits.toNat / hiddenBit % 2048 = 0 ∧ x.toBits.toNat % hiddenBit = mantissa ∧
          exponent = -1074 ∨
        ∃ field, 0 < field ∧ field < 2047 ∧ x.toBits.toNat / hiddenBit % 2048 = field ∧
          x.toBits.toNat % hiddenBit + hiddenBit = mantissa ∧ exponent = (field : Int) - 1075) := by
  have bound := x.toBits.toNat_lt
  have sign : x.toBits.toNat / 9223372036854775808 =
      (decide (x.toBits.toNat / 9223372036854775808 = 1)).toNat := by
    have digit : x.toBits.toNat / 9223372036854775808 = 0 ∨
        x.toBits.toNat / 9223372036854775808 = 1 := by omega
    rcases digit with zero | one
    · rw [zero]
      rfl
    · rw [one]
      rfl
  unfold Parts.ofFloat at finite
  simp only [Nat.pow_eq, show 2 ^ 63 = 9223372036854775808 from rfl,
    show 2 ^ 11 = 2048 from rfl] at finite
  split at finite
  · split at finite <;> simp at finite
  · rename_i notLast
    split at finite
    · rename_i first
      simp only [Parts.finite.injEq] at finite
      obtain ⟨negative, mantissa, exponent⟩ := finite
      exact ⟨negative ▸ sign, Or.inl ⟨first, mantissa, exponent.symm⟩⟩
    · rename_i notFirst
      simp only [Parts.finite.injEq] at finite
      obtain ⟨negative, mantissa, exponent⟩ := finite
      refine ⟨negative ▸ sign, Or.inr ⟨_, ?_, ?_, rfl, mantissa, exponent.symm⟩⟩
      · omega
      · omega

/-- The mantissa and the exponent of a finite float are in range. -/
theorem representable_of_finite {x : Float} {negative : Bool} {mantissa : Nat} {exponent : Int}
    (finite : Parts.ofFloat x = .finite negative mantissa exponent) :
    mantissa = 0 ∧ exponent = -1074 ∨ Representable mantissa exponent := by
  have fraction : x.toBits.toNat % hiddenBit < hiddenBit := Nat.mod_lt _ (by decide)
  rcases (bits_of_finite finite).2 with ⟨-, mantissaEq, exponentEq⟩ |
    ⟨field, positive, below, -, mantissaEq, exponentEq⟩
  · by_cases zero : mantissa = 0
    · exact Or.inl ⟨zero, exponentEq⟩
    · exact Or.inr ⟨by omega, by omega, by omega, fun other => absurd exponentEq other⟩
  · have hidden : 0 < hiddenBit := by decide
    exact Or.inr ⟨by omega, by omega, by omega, fun _ => by omega⟩

/-- A finite float is determined by its sign, mantissa and exponent. -/
theorem float_eq_of_parts {x y : Float} {negative : Bool} {mantissa : Nat} {exponent : Int}
    (finite : Parts.ofFloat x = .finite negative mantissa exponent)
    (finite' : Parts.ofFloat y = .finite negative mantissa exponent) : x = y := by
  apply float_eq_of_toBits
  apply UInt64.toNat.inj
  have bound := x.toBits.toNat_lt
  have bound' := y.toBits.toNat_lt
  have bits := bits_of_finite finite
  have bits' := bits_of_finite finite'
  generalize x.toBits.toNat = n at bound bits ⊢
  generalize y.toBits.toNat = n' at bound' bits' ⊢
  unfold hiddenBit at bits bits'
  obtain ⟨sign, rest⟩ := bits
  obtain ⟨sign', rest'⟩ := bits'
  rcases rest with ⟨field, mantissaEq, exponentEq⟩ | ⟨field, _, _, fieldEq, mantissaEq, exponentEq⟩
  · rcases rest' with ⟨field', mantissaEq', exponentEq'⟩ |
      ⟨field', _, _, fieldEq', mantissaEq', exponentEq'⟩ <;> omega
  · rcases rest' with ⟨field', mantissaEq', exponentEq'⟩ |
      ⟨field', _, _, fieldEq', mantissaEq', exponentEq'⟩ <;> omega

/-- The text of a finite float determines its sign, mantissa and exponent. -/
theorem finite_injective {layout : Layout} (usual : layout.Usual)
    {negative negative' : Bool} {mantissa mantissa' : Nat} {exponent exponent' : Int}
    (valid : mantissa = 0 ∧ exponent = -1074 ∨ Representable mantissa exponent)
    (valid' : mantissa' = 0 ∧ exponent' = -1074 ∨ Representable mantissa' exponent')
    (same : layout.finite negative mantissa exponent = layout.finite negative' mantissa' exponent') :
    negative = negative' ∧ mantissa = mantissa' ∧ exponent = exponent' := by
  obtain ⟨w, read, value⟩ := readWritten_magnitude usual (valid.imp_left And.left)
  obtain ⟨w', read', value'⟩ := readWritten_magnitude usual (valid'.imp_left And.left)
  unfold Layout.finite at same
  generalize (if mantissa = 0 then '0' :: layout.wholeEnding.toList
    else layout.setOut (shortest layout.tie mantissa exponent)) = text at same read
  generalize (if mantissa' = 0 then '0' :: layout.wholeEnding.toList
    else layout.setOut (shortest layout.tie mantissa' exponent')) = text' at same read'
  -- No decimal starts with a sign, so the signs are those of the floats.
  have unsigned (cs : List Char) : readWritten? ('-' :: cs) = none := rfl
  have signs : negative = negative' ∧ text = text' := by
    cases negative with
    | false =>
      cases negative' with
      | false => exact ⟨rfl, same⟩
      | true =>
        have same : text = '-' :: text' := same
        rw [same, unsigned] at read
        exact absurd read (by simp)
    | true =>
      cases negative' with
      | false =>
        have same : '-' :: text = text' := same
        rw [← same, unsigned] at read'
        exact absurd read' (by simp)
      | true => exact ⟨rfl, (List.cons.inj same).2⟩
  obtain ⟨sign, textEq⟩ := signs
  obtain rfl : w = w' := by
    rw [textEq, read'] at read
    exact (Option.some.inj read).symm
  refine ⟨sign, ?_⟩
  rcases value with ⟨zero, value⟩ | ⟨valid, covers⟩
  · rcases value' with ⟨zero', -⟩ | ⟨valid', covers'⟩
    · have exponentEq := valid.resolve_right fun other => absurd zero other.pos.ne'
      have exponentEq' := valid'.resolve_right fun other => absurd zero' other.pos.ne'
      exact ⟨zero.trans zero'.symm, exponentEq.2.trans exponentEq'.2.symm⟩
    · exact absurd value (ne_zero_of_covers valid' covers')
  · rcases value' with ⟨zero', value'⟩ | ⟨valid', covers'⟩
    · exact absurd value' (ne_zero_of_covers valid covers)
    · exact eq_of_covers valid valid' covers covers'

/-- The JSON number of a finite float determines the float. -/
theorem jsonFloat_injective {x y : Float} {text : List Char} (written : jsonFloat? x = some text)
    (written' : jsonFloat? y = some text) : x = y := by
  unfold jsonFloat? at written written'
  split at written
  · rename_i negative mantissa exponent finite
    split at written'
    · rename_i negative' mantissa' exponent' finite'
      have same := (Option.some.inj written).trans (Option.some.inj written').symm
      obtain ⟨rfl, rfl, rfl⟩ := finite_injective (Or.inr rfl) (representable_of_finite finite)
        (representable_of_finite finite') same
      exact float_eq_of_parts finite finite'
    · simp at written'
  · simp at written

/-- The finite floats are those with a JSON number. -/
theorem jsonFloat_isSome {x : Float} : (jsonFloat? x).isSome = isFinite x := by
  unfold jsonFloat? isFinite
  cases Parts.ofFloat x <;> rfl

end Statbook.Decimal
