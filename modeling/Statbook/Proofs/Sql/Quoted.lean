import Statbook.Sql.Quoted

/-!
# Quoted texts are read back

What was enclosed in quotes is read back, unless another quote follows at once. A text with string
literals in it is read from left to right into the characters outside of literals and the texts
that the literals stand for.
-/

namespace Statbook.Sql

variable {quote c : Char} {cs rest text : List Char}

theorem readEnclosed?_cons_of_ne (different : c ≠ quote) (cs : List Char) :
    readEnclosed? quote (c :: cs) =
      (readEnclosed? quote cs).map fun (text, rest) => (c :: text, rest) := by
  cases cs with
  | nil => simp [readEnclosed?, different]
  | cons d cs => simp [readEnclosed?, different]

theorem readEnclosed?_doubled (quote : Char) (cs : List Char) :
    readEnclosed? quote (quote :: quote :: cs) =
      (readEnclosed? quote cs).map fun (text, rest) => (quote :: text, rest) := by
  simp [readEnclosed?]

theorem readEnclosed?_closing (alone : rest.head? ≠ some quote) :
    readEnclosed? quote (quote :: rest) = some ([], rest) := by
  cases rest with
  | nil => simp [readEnclosed?]
  | cons d rest =>
    have different : d ≠ quote := by simpa using alone
    simp [readEnclosed?, different]

theorem replaceChar_quote (quote : Char) (text : List Char) :
    Text.replaceChar quote [quote, quote] (quote :: text) =
      quote :: quote :: Text.replaceChar quote [quote, quote] text := by
  simp [Text.replaceChar]

theorem replaceChar_of_ne (different : c ≠ quote) (text : List Char) :
    Text.replaceChar quote [quote, quote] (c :: text) =
      c :: Text.replaceChar quote [quote, quote] text := by
  simp [Text.replaceChar, different]

theorem readEnclosed?_enclosed (alone : rest.head? ≠ some quote) (text : List Char) :
    readEnclosed? quote (Text.replaceChar quote [quote, quote] text ++ quote :: rest) =
      some (text, rest) := by
  induction text with
  | nil => exact readEnclosed?_closing alone
  | cons c text ih =>
    by_cases same : c = quote
    · subst same
      rw [replaceChar_quote, List.cons_append, List.cons_append, readEnclosed?_doubled, ih]
      rfl
    · rw [replaceChar_of_ne same, List.cons_append, readEnclosed?_cons_of_ne same, ih]
      rfl

/-- A text whose closing quote is missing is not read. -/
theorem readEnclosed?_replaceChar (text : List Char) :
    readEnclosed? quote (Text.replaceChar quote [quote, quote] text) = none := by
  induction text with
  | nil => rfl
  | cons c text ih =>
    by_cases same : c = quote
    · subst same
      rw [replaceChar_quote, readEnclosed?_doubled, ih]
      rfl
    · rw [replaceChar_of_ne same, readEnclosed?_cons_of_ne same, ih]
      rfl

/-- A text is read up to a quote that stands alone, with two quotes for each one in it. -/
theorem eq_of_readEnclosed? (read : readEnclosed? quote cs = some (text, rest)) :
    cs = Text.replaceChar quote [quote, quote] text ++ quote :: rest ∧
      rest.head? ≠ some quote := by
  fun_induction readEnclosed? quote cs generalizing text with
  | case1 => cases read
  | case2 =>
    cases read
    simp [Text.replaceChar]
  | case3 c different => cases read
  | case4 c d cs different ih =>
    obtain ⟨⟨text', rest'⟩, found, same⟩ := Option.map_eq_some_iff.mp read
    cases same
    obtain ⟨written, alone⟩ := ih found
    exact ⟨by rw [written]; simp [Text.replaceChar, different], alone⟩
  | case5 c cs closes ih =>
    obtain ⟨⟨text', rest'⟩, found, same⟩ := Option.map_eq_some_iff.mp read
    cases same
    obtain ⟨written, alone⟩ := ih found
    have same : c = quote := by simpa using closes
    exact ⟨by rw [written, same]; simp [Text.replaceChar], alone⟩
  | case6 c d cs closes different =>
    cases read
    have same : c = quote := by simpa using closes
    exact ⟨by simp [Text.replaceChar, same], by simpa using different⟩

theorem readEnclosed?_eq_some_iff : readEnclosed? quote cs = some (text, rest) ↔
    cs = Text.replaceChar quote [quote, quote] text ++ quote :: rest ∧
      rest.head? ≠ some quote :=
  ⟨eq_of_readEnclosed?, fun ⟨written, alone⟩ => written ▸ readEnclosed?_enclosed alone text⟩

/-- What follows a closing quote is shorter than what the quote stood in. -/
theorem length_lt_of_readEnclosed? (read : readEnclosed? quote cs = some (text, rest)) :
    rest.length < cs.length := by
  rw [(eq_of_readEnclosed? read).1, List.length_append, List.length_cons]
  omega

/-- The text of the string literal at the front, and what follows the literal. -/
def readLiteral? : List Char → Option (List Char × List Char)
  | [] => none
  | c :: cs => if c = '\'' then readEnclosed? c cs else none

theorem readLiteral?_quoteLiteral (alone : rest.head? ≠ some '\'') (text : String) :
    readLiteral? ((quoteLiteral text).toList ++ rest) = some (text.toList, rest) := by
  simp [quoteLiteral, enclose, readLiteral?, readEnclosed?_enclosed alone]

/-- A part of a text in SQL: a character outside of string literals, or the text of a literal. -/
inductive Segment where
  | plain (c : Char)
  | literal (text : List Char)
  deriving DecidableEq, Repr

/-- The segments of a text in order, unless its last literal is not closed. -/
def segments? : List Char → Option (List Segment)
  | [] => some []
  | c :: cs =>
    if c = '\'' then
      match _read : readEnclosed? '\'' cs with
      | some (text, rest) => (segments? rest).map (.literal text :: ·)
      | none => none
    else (segments? cs).map (.plain c :: ·)
termination_by cs => cs.length
decreasing_by
  · have shorter := length_lt_of_readEnclosed? _read
    simp only [List.length_cons]
    omega
  · simp

theorem segments?_plain (outside : c ≠ '\'') (cs : List Char) :
    segments? (c :: cs) = (segments? cs).map (.plain c :: ·) := by
  rw [segments?, if_neg outside]

theorem segments?_quoteLiteral (alone : rest.head? ≠ some '\'') (text : String) :
    segments? ((quoteLiteral text).toList ++ rest) =
      (segments? rest).map (.literal text.toList :: ·) := by
  have read := readEnclosed?_enclosed alone text.toList
  have written : (quoteLiteral text).toList ++ rest =
      '\'' :: (Text.replaceChar '\'' ['\'', '\''] text.toList ++ '\'' :: rest) := by
    simp [quoteLiteral, enclose]
  rw [written, segments?, if_pos rfl]
  split
  · rename_i text' rest' found
    rw [read] at found
    cases found
    rfl
  · rename_i missing
    rw [read] at missing
    cases missing

end Statbook.Sql
