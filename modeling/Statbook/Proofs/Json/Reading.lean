import Statbook.Json.Number
import Statbook.Proofs.Decimal.Coefficient
import Statbook.Proofs.Json.Number

/-!
# Reading back JSON numbers

Each part of a number is read up to where the next one starts. An integer of 64 bits is read back
as it was. What was written for a float is read as one, whatever notation was chosen, and no digit
of it is lost: the digits and the power of ten that were written come to be multiplied.
-/

namespace Statbook.Json

open Decimal

/-- The whole part of a number: a zero alone, or digits that start with no zero. -/
inductive IsWhole : List Char → Prop
  | zero : IsWhole ['0']
  | digits {c : Char} {cs : List Char} (digit : isDigit c) (first : c ≠ '0')
      (kind : ∀ d ∈ cs, isDigit d) : IsWhole (c :: cs)

variable {whole fraction cs cs₁ cs₂ : List Char}

/-- The digits of a number other than zero start with no zero. -/
theorem exists_digits_eq_cons {n : Nat} (pos : 0 < n) :
    ∃ c cs, digits n = c :: cs ∧ isDigit c ∧ c ≠ '0' ∧ ∀ d ∈ cs, isDigit d := by
  cases split : digits n with
  | nil => exact absurd split (digits_ne_nil n)
  | cons c cs =>
    have kind : ∀ d ∈ c :: cs, isDigit d := fun _ member => isDigit_of_mem_digits (split ▸ member)
    have kind' : ∀ d ∈ cs, isDigit d := fun d member => kind d (List.mem_cons_of_mem c member)
    refine ⟨c, cs, rfl, kind c List.mem_cons_self, ?_, kind'⟩
    rintro rfl
    have value : foldDigits 0 cs = n := by
      rw [← foldDigits_digits n, split]
      rfl
    have less := foldDigits_lt 0 kind'
    have length : 10 ^ ((digits n).length - 1) ≤ n := (toDigits_bounds pos).1
    rw [split, List.length_cons, Nat.add_sub_cancel] at length
    omega

theorem isWhole_digits (n : Nat) : IsWhole (Decimal.digits n) := by
  rcases Nat.eq_zero_or_pos n with rfl | pos
  · exact .zero
  · obtain ⟨c, cs, split, digit, first, kind⟩ := exists_digits_eq_cons pos
    exact split ▸ .digits digit first kind

/-- Digits stop at a mark. -/
theorem stops_cons {c : Char} (mark : ¬isDigit c) : ∀ d ∈ (c :: cs).head?, ¬isDigit d := by
  rintro d ⟨⟩
  exact mark

theorem stops_nil : ∀ d ∈ ([] : List Char).head?, ¬isDigit d := by
  rintro d ⟨⟩

theorem readWhole?_append (isWhole : IsWhole whole) {rest : List Char}
    (stops : ∀ c ∈ rest.head?, ¬isDigit c) :
    readWhole? (whole ++ rest) = some (whole, rest) := by
  cases isWhole with
  | zero => rfl
  | @digits c cs digit first kind =>
    have all : ∀ d ∈ c :: cs, isDigit d := List.forall_mem_cons.mpr ⟨digit, kind⟩
    unfold readWhole?
    split
    · next same => exact absurd (List.cons.inj same).1 first
    · rw [spanDigits_append all stops]
      rfl

theorem readFraction?_point (nonempty : fraction ≠ []) (kind : ∀ c ∈ fraction, isDigit c)
    {rest : List Char} (stops : ∀ c ∈ rest.head?, ¬isDigit c) :
    readFraction? ('.' :: (fraction ++ rest)) = some (some fraction, rest) := by
  simp only [readFraction?, spanDigits_append kind stops, List.isEmpty_iff, nonempty, if_false]

theorem readFraction?_none (other : cs.head? ≠ some '.') :
    readFraction? cs = some (none, cs) := by
  unfold readFraction?
  split
  · exact absurd rfl other
  · rfl

theorem readExponent?_signed (power : Int) :
    readExponent? ('e' :: (if power < 0 then '-' else '+') :: digits power.natAbs) =
      some (some power, []) := by
  have span : spanDigits (digits power.natAbs) = (digits power.natAbs, []) := by
    have all : ∀ c ∈ digits power.natAbs, isDigit c := fun _ => isDigit_of_mem_digits
    simpa using spanDigits_append all stops_nil
  by_cases negative : power < 0
  · have size : -1 * (power.natAbs : Int) = power := by omega
    simp only [readExponent?, if_pos negative, span, List.isEmpty_iff, digits_ne_nil,
      foldDigits_digits, size, if_false, true_or, if_true]
  · have size : 1 * (power.natAbs : Int) = power := by omega
    simp only [readExponent?, if_neg negative, span, List.isEmpty_iff, digits_ne_nil,
      foldDigits_digits, size, if_false, true_or, if_true]

theorem le_foldDigits (acc : Nat) (ds : List Char) : acc ≤ foldDigits acc ds := by
  induction ds generalizing acc with
  | nil => exact le_rfl
  | cons c ds ih =>
    calc acc ≤ 10 * acc + digitValue c := by omega
      _ ≤ foldDigits (10 * acc + digitValue c) ds := ih _
      _ = foldDigits acc (c :: ds) := rfl

/-- Digits that fit are gathered all. -/
theorem gather_eq {acc : Nat} {ds : List Char} (fits : foldDigits acc ds ≤ maxSignificand) :
    gather acc ds = (foldDigits acc ds, 0) := by
  induction ds generalizing acc with
  | nil => rfl
  | cons c ds ih =>
    have fits : foldDigits (10 * acc + digitValue c) ds ≤ maxSignificand := fits
    have next : ¬maxSignificand < 10 * acc + digitValue c :=
      Nat.not_lt.mpr (Nat.le_trans (le_foldDigits _ ds) fits)
    simp only [gather, if_neg next]
    exact ih fits

/-- Digits alone are an integer. -/
theorem readUnsigned?_whole (isWhole : IsWhole whole)
    (fits : foldDigits 0 whole ≤ maxSignificand) :
    readUnsigned? whole = some ((foldDigits 0 whole, none), []) := by
  have read := readWhole?_append isWhole stops_nil
  rw [List.append_nil] at read
  simp [readUnsigned?, read, readFraction?, readExponent?, gather_eq fits]

/-- What is read of a number that is written with the digits and the power of ten of a decimal. -/
def multiplied (s : Scaled) : Option ((Nat × Option Float) × List Char) :=
  (scaled? s.coefficient s.exponent).map fun value => ((s.coefficient, some value), [])

/-- A number with a fraction or an exponent is a float: all its digits, times the power of ten that
the fraction and the exponent leave. -/
theorem readUnsigned?_float {fraction : Option (List Char)} {exponent : Option Int}
    (readWhole : readWhole? cs = some (whole, cs₁))
    (readFraction : readFraction? cs₁ = some (fraction, cs₂))
    (readExponent : readExponent? cs₂ = some (exponent, []))
    (marked : (fraction.isNone && exponent.isNone) = false)
    (fits : foldDigits 0 (whole ++ fraction.getD []) ≤ maxSignificand) :
    readUnsigned? cs = multiplied
      ⟨foldDigits 0 (whole ++ fraction.getD []), exponent.getD 0 - (fraction.getD []).length⟩ := by
  rw [foldDigits_append] at fits ⊢
  have front : gather 0 whole = _ := gather_eq (Nat.le_trans (le_foldDigits _ _) fits)
  have both := gather_eq fits
  have power : (0 : Int) - ((fraction.getD []).length - 0 : Nat) + exponent.getD 0 =
      exponent.getD 0 - (fraction.getD []).length := by omega
  unfold readUnsigned?
  rw [readWhole]
  simp only [Option.bind_eq_bind, Option.bind_some, readFraction, readExponent, front, both, marked]
  rw [Bool.false_and, if_neg Bool.false_ne_true, Nat.cast_zero, power]
  exact Option.map_eq_bind.symm

/-- Digits around a point. -/
theorem readUnsigned?_point (isWhole : IsWhole whole) (nonempty : fraction ≠ [])
    (kind : ∀ c ∈ fraction, isDigit c) (fits : foldDigits 0 (whole ++ fraction) ≤ maxSignificand) :
    readUnsigned? (whole ++ '.' :: fraction) =
      multiplied ⟨foldDigits 0 (whole ++ fraction), -fraction.length⟩ := by
  have front := readWhole?_append isWhole (@stops_cons fraction '.' (by decide))
  have read := readFraction?_point nonempty kind stops_nil
  rw [List.append_nil] at read
  have none : readExponent? [] = some (none, []) := rfl
  have both := readUnsigned?_float front read none rfl fits
  rwa [Option.getD_none, Option.getD_some, zero_sub] at both

section Notations

variable {c : Char} {ds : List Char} {n : Nat}

/-- Digits with a power of ten. -/
theorem readUnsigned?_scientific (digit : isDigit c) (first : c ≠ '0') (kind : ∀ d ∈ ds, isDigit d)
    (value : foldDigits 0 (c :: ds) = n) (fits : n ≤ maxSignificand) (power : Int) :
    readUnsigned? (scientific (c :: ds) power) = multiplied ⟨n, power - ds.length⟩ := by
  subst value
  have single : IsWhole [c] := .digits digit first fun _ none => by cases none
  have exponent := readExponent?_signed power
  unfold scientific
  simp only [List.drop_succ_cons, List.drop_zero, List.take_succ_cons, List.take_zero]
  generalize (if power < 0 then '-' else '+') :: digits power.natAbs = tail at *
  have stops := @stops_cons tail 'e' (by decide)
  cases ds with
  | nil =>
    have pointless : ('e' :: tail).head? ≠ some '.' := by simp
    exact readUnsigned?_float (readWhole?_append single stops) (readFraction?_none pointless)
      exponent rfl fits
  | cons d ds =>
    have front := readWhole?_append single (@stops_cons (d :: ds ++ 'e' :: tail) '.' (by decide))
    have point := readFraction?_point (List.cons_ne_nil d ds) kind stops
    exact readUnsigned?_float front point exponent rfl fits

/-- Digits of which some stand after the point. -/
theorem readUnsigned?_fraction (digit : isDigit c) (first : c ≠ '0') (kind : ∀ d ∈ ds, isDigit d)
    (value : foldDigits 0 (c :: ds) = n) (fits : n ≤ maxSignificand)
    {point : Int} (fractional : point < (c :: ds).length) :
    readUnsigned? (Layout.json.setPoint (c :: ds) point) =
      multiplied ⟨n, point - (c :: ds).length⟩ := by
  have all : ∀ d ∈ c :: ds, isDigit d := List.forall_mem_cons.mpr ⟨digit, kind⟩
  unfold Layout.setPoint
  split
  · next low =>
    have zeros : foldDigits 0 (['0'] ++ (List.replicate (-point).toNat '0' ++ c :: ds)) = n := by
      rw [foldDigits_append, foldDigits_append, show foldDigits 0 ['0'] = 0 from rfl,
        foldDigits_zeros, Nat.zero_mul, value]
    have filled : List.replicate (-point).toNat '0' ++ c :: ds ≠ [] := by simp
    have kind' : ∀ d ∈ List.replicate (-point).toNat '0' ++ c :: ds, isDigit d := fun d member =>
      (List.mem_append.mp member).elim isDigit_of_mem_zeros (all d)
    have places : -((List.replicate (-point).toNat '0' ++ c :: ds).length : Int) =
        point - (c :: ds).length := by
      rw [List.length_append, List.length_replicate]
      omega
    have read := readUnsigned?_point .zero filled kind' (zeros.trans_le fits)
    rwa [zeros, places] at read
  · next high =>
    rw [if_neg (by omega)]
    obtain ⟨k, place⟩ : ∃ k, point.toNat = k + 1 := ⟨point.toNat - 1, by omega⟩
    rw [place, List.take_succ_cons, List.drop_succ_cons]
    have front : IsWhole (c :: ds.take k) :=
      .digits digit first fun d member => kind d (List.mem_of_mem_take member)
    have rest : ds.drop k ≠ [] := by
      rw [ne_eq, List.drop_eq_nil_iff, not_le]
      rw [List.length_cons] at fractional
      omega
    have joined : foldDigits 0 (c :: ds.take k ++ ds.drop k) = n := by
      rw [List.cons_append, List.take_append_drop, value]
    have places : -((ds.drop k).length : Int) = point - (c :: ds).length := by
      rw [List.length_drop, List.length_cons] at *
      omega
    have read := readUnsigned?_point front rest
      (fun d member => kind d (List.mem_of_mem_drop member)) (joined.trans_le fits)
    rwa [joined, places] at read

/-- Digits of a whole number, filled up with zeros. -/
theorem readUnsigned?_filled (digit : isDigit c) (first : c ≠ '0') (kind : ∀ d ∈ ds, isDigit d)
    (value : foldDigits 0 (c :: ds) = n) {zeros : Nat}
    (fits : n * 10 ^ (zeros + 1) ≤ maxSignificand) :
    readUnsigned? (Layout.json.setPoint (c :: ds) ((c :: ds).length + zeros)) =
      multiplied ⟨n * 10 ^ (zeros + 1), -1⟩ := by
  have whole : IsWhole (c :: ds ++ List.replicate zeros '0') := by
    apply IsWhole.digits digit first
    intro d member
    exact (List.mem_append.mp member).elim (kind d) isDigit_of_mem_zeros
  have joined : foldDigits 0 (c :: ds ++ List.replicate zeros '0' ++ ['0']) =
      n * 10 ^ (zeros + 1) := by
    rw [List.append_assoc, ← List.replicate_succ', foldDigits_append, value, foldDigits_zeros]
  have last : ∀ d ∈ ['0'], isDigit d := by simpa using isDigit_zero
  have read := readUnsigned?_point whole (List.cons_ne_nil '0' []) last (joined.trans_le fits)
  have positive : ¬((c :: ds).length + zeros : Int) ≤ 0 := by
    rw [List.length_cons]
    omega
  have place : ((c :: ds).length + zeros : Int).toNat - (c :: ds).length = zeros := by omega
  unfold Layout.setPoint
  rw [if_neg positive, if_pos (by omega), place]
  rwa [joined] at read

end Notations

/-- The decimal whose digits stand in the JSON number of a decimal: without an exponent, a whole
number ends in a zero after its point. -/
def spelled (s : Scaled) : Scaled :=
  if 0 ≤ s.exponent ∧ (digits s.coefficient).length + s.exponent ≤ 16 then
    ⟨s.coefficient * 10 ^ (s.exponent.toNat + 1), -1⟩
  else s

theorem value_spelled (s : Scaled) : (spelled s).value = s.value := by
  unfold spelled
  split
  · next whole =>
    obtain ⟨k, exponent⟩ := Int.eq_ofNat_of_zero_le whole.1
    rw [Scaled.value, Scaled.value, exponent, Int.toNat_natCast, zpow_natCast]
    push_cast
    ring
  · rfl

theorem spelled_pos {s : Scaled} (pos : 0 < s.coefficient) : 0 < (spelled s).coefficient := by
  unfold spelled
  split
  · exact Nat.mul_pos pos (Nat.pow_pos (by decide))
  · exact pos

/-- No digit that is written for eighteen digits is too many. -/
theorem spelled_le {s : Scaled} (short : s.coefficient < 10 ^ 18) :
    (spelled s).coefficient ≤ maxSignificand := by
  unfold spelled
  split
  · next whole =>
    have below : s.coefficient < 10 ^ (digits s.coefficient).length :=
      (Nat.length_toDigits_le_iff (by decide) Nat.length_toDigits_pos).mp le_rfl
    calc s.coefficient * 10 ^ (s.exponent.toNat + 1)
        ≤ 10 ^ (digits s.coefficient).length * 10 ^ (s.exponent.toNat + 1) :=
          Nat.mul_le_mul_right _ below.le
      _ = 10 ^ ((digits s.coefficient).length + (s.exponent.toNat + 1)) := (Nat.pow_add ..).symm
      _ ≤ 10 ^ 17 := Nat.pow_le_pow_right (by decide) (by omega)
      _ ≤ maxSignificand := by decide
  · exact Nat.le_trans short.le (by decide)

/-- The digits of a decimal come to be multiplied, whichever notation they are written in. -/
theorem readUnsigned?_setOut {s : Scaled} (pos : 0 < s.coefficient)
    (short : s.coefficient < 10 ^ 18) :
    readUnsigned? (Layout.json.setOut s) = multiplied (spelled s) := by
  have fits := spelled_le short
  have value := foldDigits_digits s.coefficient
  obtain ⟨c, ds, split, digit, first, kind⟩ := exists_digits_eq_cons pos
  unfold Layout.setOut
  unfold spelled at fits ⊢
  rw [split] at value fits ⊢
  simp only [Layout.json]
  by_cases positional : -5 ≤ ((c :: ds).length + s.exponent - 1 : Int) ∧
      (c :: ds).length + s.exponent - 1 ≤ 15
  · rw [if_pos positional]
    by_cases whole : 0 ≤ s.exponent
    · have both : 0 ≤ s.exponent ∧ (c :: ds).length + s.exponent ≤ 16 := ⟨whole, by omega⟩
      rw [if_pos both] at fits ⊢
      obtain ⟨zeros, exponent⟩ := Int.eq_ofNat_of_zero_le whole
      rw [exponent] at fits ⊢
      exact readUnsigned?_filled digit first kind value fits
    · rw [if_neg fun both => whole both.1] at fits ⊢
      have fractional : (c :: ds).length + s.exponent < (c :: ds).length := by omega
      have read := readUnsigned?_fraction digit first kind value fits fractional
      rwa [add_sub_cancel_left] at read
  · have other : ¬(0 ≤ s.exponent ∧ (c :: ds).length + s.exponent ≤ 16) := by omega
    rw [if_neg positional]
    rw [if_neg other] at fits ⊢
    have read := readUnsigned?_scientific digit first kind value fits
      ((c :: ds).length + s.exponent - 1)
    have power : ((c :: ds).length + s.exponent - 1 - ds.length : Int) = s.exponent := by
      rw [List.length_cons]
      omega
    rwa [power] at read

/-- The JSON number of a float without its sign. -/
def magnitude (mantissa : Nat) (exponent : Int) : List Char :=
  if mantissa = 0 then '0' :: Layout.json.wholeEnding.toList
  else Layout.json.setOut (shortest Layout.json.tie mantissa exponent)

/-- The decimal whose digits stand in the JSON number of a float without its sign. -/
def written (mantissa : Nat) (exponent : Int) : Scaled :=
  if mantissa = 0 then ⟨0, -1⟩ else spelled (shortest Layout.json.tie mantissa exponent)

theorem readUnsigned?_magnitude {m : Nat} {e : Int} (valid : m = 0 ∨ Representable m e) :
    readUnsigned? (magnitude m e) = multiplied (written m e) := by
  unfold magnitude written
  by_cases zero : m = 0
  · rw [if_pos zero, if_pos zero]
    have last : ∀ d ∈ ['0'], isDigit d := by simpa using isDigit_zero
    exact readUnsigned?_point .zero (List.cons_ne_nil '0' []) last (by decide)
  · rw [if_neg zero, if_neg zero]
    have valid := valid.resolve_left zero
    exact readUnsigned?_setOut (shortest_coefficient_pos _ valid) (shortest_coefficient_lt _ valid)

/-- Digits with a point set among them start with a digit. -/
theorem exists_setPoint_eq_cons {c : Char} (digit : isDigit c) (ds : List Char) (point : Int) :
    ∃ d cs, isDigit d ∧ Layout.json.setPoint (c :: ds) point = d :: cs := by
  unfold Layout.setPoint
  split
  · exact ⟨'0', _, isDigit_zero, rfl⟩
  · split
    · exact ⟨c, _, digit, rfl⟩
    · obtain ⟨k, place⟩ : ∃ k, point.toNat = k + 1 := ⟨point.toNat - 1, by omega⟩
      rw [place]
      exact ⟨c, _, digit, rfl⟩

theorem exists_magnitude_eq_cons (m : Nat) (e : Int) :
    ∃ c cs, isDigit c ∧ magnitude m e = c :: cs := by
  unfold magnitude
  split
  · exact ⟨'0', _, isDigit_zero, rfl⟩
  · generalize shortest Layout.json.tie m e = s
    cases split : digits s.coefficient with
    | nil => exact absurd split (digits_ne_nil s.coefficient)
    | cons c ds =>
      have digit : isDigit c := by
        apply isDigit_of_mem_digits
        rw [split]
        exact List.mem_cons_self
      unfold Layout.setOut
      rw [split]
      simp only [Layout.json]
      split
      · exact exists_setPoint_eq_cons digit ds _
      · exact ⟨c, _, digit, rfl⟩

/-- A finite float is written with its sign, if that is a minus, and its magnitude. -/
theorem floatChars_eq {x : Float} {negative : Bool} {m : Nat} {e : Int}
    (parts : Parts.ofFloat x = .finite negative m e) :
    floatChars x = (if negative then ['-'] else []) ++ magnitude m e := by
  rw [floatChars, jsonFloat?, parts]
  rfl

/-- The sign of a float is turned after it is read. -/
theorem readNumber?_signed {text : List Char} {s : Scaled}
    (read : readUnsigned? text = multiplied s)
    (unsigned : text.head? ≠ some '-') (negative : Bool) :
    readNumber? ((if negative then ['-'] else []) ++ text) =
      (scaled? s.coefficient s.exponent).map fun value =>
        (.float (if negative then -value else value), []) := by
  cases negative with
  | false =>
    show readNumber? text = _
    unfold readNumber?
    split
    · exact absurd rfl unsigned
    · rw [read, multiplied, Option.map_map]
      rfl
  | true =>
    show (readUnsigned? text).map _ = _
    rw [read, multiplied, Option.map_map]
    rfl

/-- An integer of 64 bits is read back. -/
theorem readNumber?_ofInt {n : Int} (least : Int64.minValue.toInt ≤ n)
    (most : n ≤ Int64.maxValue.toInt) : readNumber? (ofInt n) = some (.integer n, []) := by
  have whole (k : Nat) (fits : k ≤ maxSignificand) :
      readUnsigned? (Decimal.digits k) = some ((k, none), []) := by
    have read := readUnsigned?_whole (isWhole_digits k)
    rw [foldDigits_digits] at read
    exact read fits
  have least' : Int64.minValue.toInt = -9223372036854775808 := by decide
  have most' : Int64.maxValue.toInt = 9223372036854775807 := by decide
  have greatest : maxSignificand = 18446744073709551615 := by decide
  cases n with
  | ofNat n =>
    show readNumber? (Decimal.digits n) = _
    unfold readNumber?
    split
    · next same =>
      have digit : isDigit '-' := isDigit_of_mem_digits (n := n) (same ▸ List.mem_cons_self)
      exact absurd digit (by decide)
    · have most : (n : Int) ≤ Int64.maxValue.toInt := most
      rw [whole n (by omega)]
      rfl
  | negSucc n =>
    show (readUnsigned? (Decimal.digits (n + 1))).map _ = _
    have inside : ¬(n + 1 = 0 ∨ Int64.minValue.toInt.natAbs < n + 1) := by omega
    rw [whole (n + 1) (by omega)]
    simp only [Option.map_some, if_neg inside]
    rfl

/-- What is read of the JSON number of a float: its digits, rounded, times or by its power of ten,
rounded as well, so that it need not be the float that was written. -/
def reread? (x : Float) : Option Float :=
  match Parts.ofFloat x with
  | .finite negative mantissa exponent =>
    (scaled? (written mantissa exponent).coefficient (written mantissa exponent).exponent).map
      fun value => if negative then -value else value
  | _ => none

/-- What was written for a finite float is read as a float. -/
theorem readNumber?_floatChars {x : Float} (finite : isFinite x) :
    readNumber? (floatChars x) = (reread? x).map fun value => (.float value, []) := by
  unfold isFinite at finite
  split at finite
  · next negative m e parts =>
    have valid := (representable_of_finite parts).imp_left And.left
    obtain ⟨c, cs, digit, first⟩ := exists_magnitude_eq_cons m e
    have unsigned : (magnitude m e).head? ≠ some '-' := by
      rw [first, List.head?_cons]
      rintro ⟨⟩
      exact absurd digit (by decide)
    rw [floatChars_eq parts, readNumber?_signed (readUnsigned?_magnitude valid) unsigned, reread?,
      parts]
    simp only [Option.map_map, Function.comp_def]
  · cases finite

end Statbook.Json
