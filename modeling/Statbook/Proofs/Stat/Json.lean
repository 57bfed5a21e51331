import Statbook.Stat.Reader
import Statbook.Proofs.Json.Bounded

/-!
# Values of statistics through JSON

The JSON text of a value does not say which kind of value it is of. The kind is found again in the
text: null by its word, an integer by its digits, and a float by the point or the exponent that its
text never lacks.
-/

namespace Statbook.StatValue

open Decimal

/-- A text that starts as a number does is read as the number it holds. -/
theorem ofJsonText?_number {cs : List Char} (first : ∀ c ∈ cs.head?, c = '-' ∨ isDigit c)
    {number : Option Json.Number} (read : Json.readNumber? cs = number.map fun n => (n, [])) :
    ofJsonText? (String.ofList cs) = number.map ofNumber := by
  have starts : cs.dropWhile Json.isSpace = cs ∧
      Text.afterStart? "null".toList cs = none := by
    cases cs with
    | nil => exact ⟨rfl, rfl⟩
    | cons c cs =>
      have start := first c rfl
      have noSpace : ¬Json.isSpace c := by
        intro space
        have known : c = ' ' ∨ c = '\t' ∨ c = '\n' ∨ c = '\r' := by
          simpa [Json.isSpace, or_assoc] using space
        rcases known with rfl | rfl | rfl | rfl <;> exact absurd start (by decide)
      have other : 'n' ≠ c := by
        rintro rfl
        exact absurd start (by decide)
      exact ⟨List.dropWhile_cons_of_neg noSpace, if_neg other⟩
  unfold ofJsonText? readFront?
  rw [@String.toList_ofList cs, starts.1, starts.2, read]
  cases number <;> rfl

theorem first_of_ofInt (n : Int) : ∀ c ∈ (ofInt n).head?, c = '-' ∨ isDigit c := by
  intro c first
  exact eq_minus_or_isDigit_of_mem_ofInt (List.mem_of_mem_head? first)

theorem first_of_floatChars {x : Float} (finite : isFinite x) :
    ∀ c ∈ (Json.floatChars x).head?, c = '-' ∨ isDigit c := by
  unfold isFinite at finite
  split at finite
  · next negative m e parts =>
    obtain ⟨d, cs, digit, magnitude⟩ := Json.exists_magnitude_eq_cons m e
    rw [Json.floatChars_eq parts, magnitude]
    cases negative with
    | false =>
      rintro c ⟨⟩
      exact .inr digit
    | true =>
      rintro c ⟨⟩
      exact .inl rfl
  · cases finite

/-- An integer is read back. -/
theorem ofJsonText?_int (n : Int64) : ofJsonText? (int n).toJson.render = some (int n) := by
  have least := Int64.minValue_le_toInt n
  have most := Int64.toInt_le n
  have read := @ofJsonText?_number _ (first_of_ofInt n.toInt) (some (.integer n.toInt))
    (Json.readNumber?_ofInt least most)
  have fits : int64? n.toInt = some n := by
    rw [int64?, if_pos ⟨least, most⟩, Int64.ofInt_toInt]
  rw [Option.map_some, ofNumber, fits] at read
  exact read

/-- A finite float is read as a float. -/
theorem ofJsonText?_float {x : Float} (finite : isFinite x) :
    ofJsonText? (float x).toJson.render = (Json.reread? x).map float := by
  have read := @ofJsonText?_number _ (first_of_floatChars finite) ((Json.reread? x).map .float)
    (by rw [Json.readNumber?_floatChars finite, Option.map_map]; rfl)
  rw [Option.map_map] at read
  exact read

/-- That float may be a neighbour of the one that was written. -/
example : ofJsonText? (float 8000000000000001.0).toJson.render =
    some (float 8000000000000002.0) := by decide +kernel

/-- A float that is not finite is written and read as null. -/
theorem ofJsonText?_notFinite {x : Float} (notFinite : ¬isFinite x) :
    ofJsonText? (float x).toJson.render = some null := by
  have none : jsonFloat? x = none := by
    rw [← Option.not_isSome_iff_eq_none, jsonFloat_isSome]
    exact notFinite
  have text : (float x).toJson.render = "null" := by
    show String.ofList (Json.floatChars x) = "null"
    rw [Json.floatChars, none]
    rfl
  rw [text]
  decide

/-- JSON can say the value: it is not a float, or it is a finite one. -/
def IsWritten : StatValue → Prop
  | float x => isFinite x
  | _ => True

/-- The digits of a float and their power of ten are multiplied to the float again. The reader
rounds both before it multiplies them, so this does not hold of every float. -/
def ReadsBack : StatValue → Prop
  | float x => Json.reread? x = some x
  | _ => True

/-- Both values are null, both are integers or both are floats. -/
def SameKind : StatValue → StatValue → Prop
  | null, null => True
  | int _, int _ => True
  | float _, float _ => True
  | _, _ => False

/-- A value is read from its JSON text as a value of its kind, and as the value itself where the
digits of a float are multiplied to it again, as they are if they and their power of ten are floats
themselves. What JSON has no number for is read as null. -/
theorem survives_json :
    (∀ v : StatValue, v.IsWritten → ∃ w, ofJsonText? v.toJson.render = some w ∧ SameKind v w ∧
      (v.ReadsBack → w = v)) ∧
    (∀ v : StatValue, ¬v.IsWritten → ofJsonText? v.toJson.render = some null) ∧
    ∀ x, Json.writtenExactly x → ofJsonText? (float x).toJson.render = some (float x) := by
  refine ⟨?_, ?_, ?_⟩
  · intro v written
    cases v with
    | null => exact ⟨null, by decide, trivial, fun _ => rfl⟩
    | int n => exact ⟨int n, ofJsonText?_int n, trivial, fun _ => rfl⟩
    | float x =>
      obtain ⟨y, reread⟩ := Option.isSome_iff_exists.mp (Json.reread?_isSome written)
      have read := ofJsonText?_float written
      rw [reread] at read
      refine ⟨float y, read, trivial, ?_⟩
      intro same
      have same : Json.reread? x = some x := same
      rw [reread] at same
      exact congrArg float (Option.some.inj same)
  · intro v unwritten
    cases v with
    | null => exact absurd trivial unwritten
    | int n => exact absurd trivial unwritten
    | float x => exact ofJsonText?_notFinite unwritten
  · intro x exact
    rw [ofJsonText?_float (Json.isFinite_of_writtenExactly exact), Json.reread?_eq_self exact]
    rfl

/-- The first float beyond the integers of 64 bits, the first that is written with an exponent and
the negative zero stay floats, and the least integer stays an integer. -/
theorem edges_survive_json :
    ofJsonText? (float 9223372036854775808.0).toJson.render =
        some (float 9223372036854775808.0) ∧
      ofJsonText? (float 10000000000000000.0).toJson.render =
        some (float 10000000000000000.0) ∧
      ofJsonText? (float (-0.0)).toJson.render = some (float (-0.0)) ∧
      ofJsonText? (float 1e300).toJson.render = some (float 1e300) ∧
      ofJsonText? (int Int64.minValue).toJson.render = some (int Int64.minValue) ∧
      ofJsonText? (float (1.0 / 0.0)).toJson.render = some null := by
  obtain ⟨written, unwritten, exact⟩ := survives_json
  refine ⟨exact _ (by decide +kernel), exact _ (by decide +kernel), exact _ (by decide +kernel),
    ?_, ?_, unwritten _ ?_⟩
  · obtain ⟨w, read, -, same⟩ := written (float 1e300) (show isFinite 1e300 by decide +kernel)
    have reread : Json.reread? 1e300 = some 1e300 := by decide +kernel
    rw [read, same reread]
  · obtain ⟨w, read, -, same⟩ := written (int Int64.minValue) trivial
    rw [read, same trivial]
  · show ¬isFinite (1.0 / 0.0)
    decide +kernel

end Statbook.StatValue
