import Statbook.Proofs.Decimal.FloatText
import Statbook.Json.Value

/-!
# JSON numbers

The characters of JSON numbers. A float has a point or an exponent, which no integer has, so
the text of a number tells which kind it is of.
-/

namespace Statbook

open Decimal

/-- A character of a JSON number. -/
def isNumberChar (c : Char) : Bool :=
  isDigit c || c = '-' || c = '+' || c = '.' || c = 'e'

/-- A character that sets a float apart from an integer. -/
def isFloatMark (c : Char) : Bool :=
  c = '.' || c = 'e'

/-- Text of the characters of numbers only, with one that an integer does not have. -/
def IsFloatText (text : List Char) : Prop :=
  (∀ c ∈ text, isNumberChar c) ∧ ∃ c ∈ text, isFloatMark c

theorem isNumberChar_of_isDigit {c : Char} (digit : isDigit c) : isNumberChar c := by
  simp [isNumberChar, digit]

/-- Digits with a point set among them are the text of a float: a whole number has a fraction
of zero. -/
theorem isFloatText_setPoint {ds : List Char} (digits : ∀ c ∈ ds, isDigit c) (point : Int) :
    IsFloatText (Layout.json.setPoint ds point) := by
  have zeros {c : Char} {count : Nat} (member : c ∈ List.replicate count '0') : isNumberChar c :=
    isNumberChar_of_isDigit (isDigit_of_mem_zeros member)
  have plain {c : Char} (member : c ∈ ds) : isNumberChar c :=
    isNumberChar_of_isDigit (digits c member)
  unfold Layout.setPoint
  split
  · refine ⟨fun c member => ?_, '.', by simp, rfl⟩
    rcases List.mem_cons.mp member with rfl | member
    · rfl
    rcases List.mem_cons.mp member with rfl | member
    · rfl
    exact (List.mem_append.mp member).elim zeros plain
  · split
    · refine ⟨fun c member => ?_, '.', by simp [Layout.json], rfl⟩
      rcases List.mem_append.mp member with member | ending
      · exact (List.mem_append.mp member).elim plain zeros
      · have known : c = '.' ∨ c = '0' := by simpa [Layout.json] using ending
        rcases known with rfl | rfl <;> rfl
    · refine ⟨fun c member => ?_, '.', by simp, rfl⟩
      rcases List.mem_append.mp member with member | member
      · exact plain (List.mem_of_mem_take member)
      rcases List.mem_cons.mp member with rfl | member
      · rfl
      exact plain (List.mem_of_mem_drop member)

/-- A number with an exponent is the text of a float. -/
theorem isFloatText_scientific {ds : List Char} (digits : ∀ c ∈ ds, isDigit c) (power : Int) :
    IsFloatText (scientific ds power) := by
  have plain {c : Char} (member : c ∈ ds) : isNumberChar c :=
    isNumberChar_of_isDigit (digits c member)
  unfold scientific
  refine ⟨fun c member => ?_, 'e', by simp, rfl⟩
  rcases List.mem_append.mp member with member | member
  · rcases List.mem_append.mp member with member | member
    · exact plain (List.mem_of_mem_take member)
    · split at member
      · simp at member
      · rcases List.mem_cons.mp member with rfl | member
        · rfl
        · exact plain (List.mem_of_mem_drop member)
  · rcases List.mem_cons.mp member with rfl | member
    · rfl
    rcases List.mem_cons.mp member with sign | member
    · split at sign <;> subst sign <;> rfl
    · exact isNumberChar_of_isDigit (isDigit_of_mem_digits member)

/-- The text of a positive decimal is the text of a float, on whichever scale it is set out. -/
theorem isFloatText_setOut (s : Scaled) : IsFloatText (Layout.json.setOut s) := by
  have plain : ∀ c ∈ digits s.coefficient, isDigit c := fun _ => isDigit_of_mem_digits
  simp only [Layout.setOut, Layout.json]
  split
  · exact isFloatText_setPoint plain _
  · exact isFloatText_scientific plain _

/-- A JSON number that stands for a float is the text of one. -/
theorem isFloatText_of_jsonFloat {x : Float} {text : List Char}
    (written : jsonFloat? x = some text) : IsFloatText text := by
  have unsigned (mantissa : Nat) (exponent : Int) :
      IsFloatText (if mantissa = 0 then '0' :: Layout.json.wholeEnding.toList
        else Layout.json.setOut (shortest Layout.json.tie mantissa exponent)) := by
    split
    · refine ⟨fun c member => ?_, '.', by simp [Layout.json], rfl⟩
      have known : c = '0' ∨ c = '.' ∨ c = '0' := by simpa [Layout.json] using member
      rcases known with rfl | rfl | rfl <;> rfl
    · exact isFloatText_setOut _
  unfold jsonFloat? at written
  split at written
  · rename_i negative mantissa exponent _
    obtain rfl := Option.some.inj written
    obtain ⟨chars, mark, member, marks⟩ := unsigned mantissa exponent
    refine ⟨fun c member => ?_, mark, List.mem_append_right _ member, marks⟩
    rcases List.mem_append.mp member with sign | member
    · split at sign
      · rw [List.mem_singleton.mp sign]
        rfl
      · simp at sign
    · exact chars c member
  · simp at written

/-- An integer has the characters of numbers only, and none that marks a float. -/
theorem isNumberChar_of_mem_ofInt {c : Char} {n : Int} (member : c ∈ ofInt n) :
    isNumberChar c ∧ ¬isFloatMark c := by
  have unmarked {c : Char} (digit : isDigit c) : ¬isFloatMark c := by
    intro mark
    have known : c = '.' ∨ c = 'e' := by simpa [isFloatMark] using mark
    rcases known with rfl | rfl <;> exact absurd digit (by decide)
  rcases eq_minus_or_isDigit_of_mem_ofInt member with rfl | digit
  · exact ⟨rfl, by decide⟩
  · exact ⟨isNumberChar_of_isDigit digit, unmarked digit⟩

theorem ofInt_ne_nil (n : Int) : ofInt n ≠ [] := by
  cases n with
  | ofNat n => exact digits_ne_nil n
  | negSucc n => exact List.cons_ne_nil _ _

end Statbook
