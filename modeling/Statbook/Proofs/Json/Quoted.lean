import Statbook.Json.Value
import Statbook.Text.Hexadecimal

/-!
# JSON strings

A JSON string is read back from its front: each escape gives one character, and the first
quote that is not escaped ends it. So a text starts with one JSON string at most.
-/

namespace Statbook.Json

/-- The character that stands at the front of a text, perhaps as an escape, and what follows. -/
def unescape : List Char → Option (Char × List Char)
  | '\\' :: 'b' :: rest => some ('\x08', rest)
  | '\\' :: 'f' :: rest => some ('\x0c', rest)
  | '\\' :: 'n' :: rest => some ('\n', rest)
  | '\\' :: 'r' :: rest => some ('\r', rest)
  | '\\' :: 't' :: rest => some ('\t', rest)
  | '\\' :: 'u' :: '0' :: '0' :: high :: low :: rest =>
    some (Char.ofNat (Text.foldHex 0 [high, low]), rest)
  | '\\' :: c :: rest => some (c, rest)
  | c :: rest => some (c, rest)
  | [] => none

/-- A control character is read back from the two digits of its escape. -/
theorem foldHex_control {n : Nat} (control : n < 0x20) :
    Text.foldHex 0 [hexDigit (n / 16), hexDigit (n % 16)] = n := by
  revert n
  decide

/-- A character that is no backslash is read as itself. -/
theorem unescape_cons {c : Char} (plain : c ≠ '\\') (rest : List Char) :
    unescape (c :: rest) = some (c, rest) := by
  unfold unescape
  split <;> simp_all

/-- An escape is read as the character it was written for. -/
theorem unescape_escapeChar (c : Char) (rest : List Char) :
    unescape (escapeChar c ++ rest) = some (c, rest) := by
  by_cases quote : c = '"'
  · subst quote; rfl
  by_cases backslash : c = '\\'
  · subst backslash; rfl
  by_cases backspace : c = '\x08'
  · subst backspace; rfl
  by_cases feed : c = '\x0c'
  · subst feed; rfl
  by_cases line : c = '\n'
  · subst line; rfl
  by_cases carriage : c = '\r'
  · subst carriage; rfl
  by_cases tab : c = '\t'
  · subst tab; rfl
  simp only [escapeChar, quote, backslash, backspace, feed, line, carriage, tab, if_false]
  split
  · rename_i control
    simp only [List.cons_append, List.nil_append, unescape, foldHex_control control,
      Char.ofNat_toNat]
  · exact unescape_cons backslash rest

/-- No escape starts with a quote. -/
theorem head_escapeChar (c : Char) : ∃ d ds, escapeChar c = d :: ds ∧ d ≠ '"' := by
  unfold escapeChar
  repeat' split
  all_goals first
    | exact ⟨_, _, rfl, by decide⟩
    | exact ⟨_, _, rfl, by assumption⟩

/-- The characters before the first quote that is not escaped, and what follows it. -/
theorem escaped_append_inj {cs ds rest rest' : List Char}
    (same : cs.flatMap escapeChar ++ '"' :: rest = ds.flatMap escapeChar ++ '"' :: rest') :
    cs = ds ∧ rest = rest' := by
  have ends (c : Char) (cs rest rest' : List Char) :
      '"' :: rest ≠ (c :: cs).flatMap escapeChar ++ rest' := by
    obtain ⟨d, ds, escape, other⟩ := head_escapeChar c
    rw [List.flatMap_cons, escape]
    exact fun same => other (List.cons.inj same).1.symm
  induction cs generalizing ds with
  | nil =>
    cases ds with
    | nil => exact ⟨rfl, (List.cons.inj same).2⟩
    | cons d ds => exact absurd same (ends d ds rest _)
  | cons c cs ih =>
    cases ds with
    | nil => exact absurd same.symm (ends c cs rest' _)
    | cons d ds =>
      rw [List.flatMap_cons, List.flatMap_cons, List.append_assoc, List.append_assoc] at same
      have front := congrArg unescape same
      rw [unescape_escapeChar, unescape_escapeChar] at front
      obtain ⟨rfl, tails⟩ := Prod.mk.inj (Option.some.inj front)
      obtain ⟨rfl, rests⟩ := ih tails
      exact ⟨rfl, rests⟩

/-- A text starts with one JSON string at most. -/
theorem quoted_append_inj {s t : String} {rest rest' : List Char}
    (same : quoted s ++ rest = quoted t ++ rest') : s = t ∧ rest = rest' := by
  have inner : s.toList.flatMap escapeChar ++ '"' :: rest =
      t.toList.flatMap escapeChar ++ '"' :: rest' := by
    simpa [quoted] using same
  obtain ⟨chars, rests⟩ := escaped_append_inj inner
  exact ⟨String.toList_inj.mp chars, rests⟩

end Statbook.Json
