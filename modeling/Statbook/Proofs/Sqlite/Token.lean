import Statbook.Proofs.Decimal.Digits
import Statbook.Proofs.Sql.Quoted
import Statbook.Proofs.Text.Runs
import Statbook.Sql.Piece
import Statbook.Sqlite.Token

/-!
# The tokens of a text

Every token and every blank takes something off the front of a text, so the tokens of a text are
those at its front and then the tokens of what is left. What a statement is made of, words, quoted
names, marks and numbered places, is read back as one token each.
-/

namespace Statbook.Sqlite

open Decimal

namespace NumberLiteral

variable {cs rest : List Char} {mark : Char}

theorem splitSign_suffix (cs : List Char) : (splitSign cs).2 <:+ cs := by
  unfold splitSign
  split
  · exact List.suffix_cons _ _
  · exact List.suffix_cons _ _
  · exact List.suffix_rfl

theorem spanGrouped_suffix (isOfKind : Char → Bool) (cs : List Char) :
    (spanGrouped isOfKind cs).2 <:+ cs :=
  List.dropWhile_suffix _

theorem readGroupedPower_suffix (cs : List Char) : (readGroupedPower cs).2 <:+ cs := by
  cases cs with
  | nil => exact List.suffix_rfl
  | cons c cs =>
    dsimp only [readGroupedPower]
    split
    · exact ((spanGrouped_suffix isDigit _).trans (splitSign_suffix cs)).trans (List.suffix_cons c cs)
    · exact List.suffix_rfl

theorem afterHexMark?_suffix {c : Char} (found : afterHexMark? (c :: cs) = some (mark, rest)) :
    rest <:+ cs := by
  unfold afterHexMark? at found
  split at found
  · rename_i same
    cases same
    split at found
    · cases found
      exact List.suffix_cons _ _
    · cases found
  · cases found

/-- What follows a number that starts with a digit, or with a point. -/
theorem read_suffix {c : Char} (starts : isDigit c ∨ c = '.') (cs : List Char) :
    (read (c :: cs)).2 <:+ cs := by
  unfold read
  split
  · rename_i found
    exact (spanGrouped_suffix _ _).trans (afterHexMark?_suffix found)
  · by_cases digit : isDigit c
    · have whole : (spanGrouped isDigit (c :: cs)).2 <:+ cs := by
        simpa [spanGrouped, digit] using List.dropWhile_suffix _
      dsimp only
      split
      · rename_i rest pointed
        rw [pointed] at whole
        exact ((readGroupedPower_suffix _).trans (spanGrouped_suffix isDigit rest)).trans
          ((List.suffix_cons _ _).trans whole)
      · exact (readGroupedPower_suffix _).trans whole
    · obtain rfl := starts.resolve_left digit
      exact (readGroupedPower_suffix _).trans (spanGrouped_suffix isDigit cs)

end NumberLiteral

namespace Lexeme

variable {c : Char} {cs rest : List Char}

theorem splitFirst_suffix {sep : Char} {before : List Char}
    (found : Text.splitFirst sep cs = some (before, rest)) : rest <:+ cs := by
  induction cs generalizing before with
  | nil => cases found
  | cons d cs ih =>
    unfold Text.splitFirst at found
    split at found
    · cases found
      exact List.suffix_cons _ _
    · obtain ⟨⟨before', rest'⟩, later, same⟩ := Option.map_eq_some_iff.mp found
      cases same
      exact (ih later).trans (List.suffix_cons d cs)

theorem readQuoted_suffix (quote : Char) (make : String → Lexeme) (cs : List Char) :
    (readQuoted quote make cs).2 <:+ cs := by
  unfold readQuoted
  split
  · rename_i content rest found
    rw [(Sql.eq_of_readEnclosed? found).1]
    exact (List.suffix_cons quote rest).trans (List.suffix_append _ _)
  · exact List.nil_suffix

theorem readBracketed_suffix (cs : List Char) : (readBracketed cs).2 <:+ cs := by
  unfold readBracketed
  split
  · rename_i found
    exact splitFirst_suffix found
  · exact List.nil_suffix

theorem readBlob_suffix (cs : List Char) : (readBlob cs).2 <:+ cs := by
  have digits := List.dropWhile_suffix (l := cs) Text.isHexDigit
  dsimp only [readBlob]
  split
  · rename_i rest closed
    rw [closed] at digits
    exact (List.suffix_cons _ rest).trans digits
  · exact ((List.drop_suffix 1 _).trans (List.dropWhile_suffix _)).trans digits

theorem readNumber_suffix (starts : isDigit c ∨ c = '.') (cs : List Char) :
    (readNumber (c :: cs)).2 <:+ cs := by
  have number := NumberLiteral.read_suffix starts cs
  dsimp only [readNumber]
  split
  · exact (List.dropWhile_suffix _).trans number
  · exact number

theorem readParameter_suffix (cs : List Char) : (readParameter cs).2 <:+ cs := by
  have digits : (spanDigits cs).2 <:+ cs := List.dropWhile_suffix _
  dsimp only [readParameter]
  split
  · exact digits
  · split <;> exact digits

theorem readWord_suffix (starts : continuesName c) (cs : List Char) :
    (readWord (c :: cs)).2 <:+ cs := by
  simpa [readWord, starts] using List.dropWhile_suffix _

theorem readMark_suffix (c : Char) (cs : List Char) : (readMark (c :: cs)).2 <:+ cs := by
  unfold readMark
  split
  case h_27 => exact List.suffix_rfl
  all_goals
    rename_i same
    cases same
    first
      | exact List.suffix_rfl
      | exact List.suffix_cons _ _
      | exact (List.suffix_cons _ _).trans (List.suffix_cons _ _)

theorem read_suffix (c : Char) (cs : List Char) : (read c cs).2 <:+ cs := by
  unfold read
  split
  · rename_i mark
    have starts : continuesName c := by
      obtain rfl | rfl := mark <;> decide
    split
    · exact (readBlob_suffix _).trans (List.suffix_cons _ _)
    · exact readWord_suffix starts cs
  · split
    · rename_i starts
      exact readWord_suffix (by simp [continuesName, starts]) cs
    · split
      · rename_i number
        have starts : isDigit c ∨ c = '.' := by
          simp only [Bool.or_eq_true, Bool.and_eq_true, decide_eq_true_eq] at number
          exact number.imp_right And.left
        exact readNumber_suffix starts cs
      · repeat' split
        · exact readQuoted_suffix _ _ cs
        · exact readQuoted_suffix _ _ cs
        · exact readQuoted_suffix _ _ cs
        · exact readBracketed_suffix cs
        · exact readParameter_suffix cs
        · exact readMark_suffix c cs

end Lexeme

namespace Token

variable {c stop : Char} {cs rest : List Char} {lexeme : Lexeme}

theorem afterCommentEnd_suffix (cs : List Char) : afterCommentEnd cs <:+ cs := by
  induction cs with
  | nil => exact List.suffix_rfl
  | cons c cs ih =>
    unfold afterCommentEnd
    split
    · rename_i same
      cases same
      exact (List.suffix_cons _ _).trans (List.suffix_cons _ _)
    · rename_i same
      cases same
      exact ih.trans (List.suffix_cons _ _)
    · exact List.nil_suffix

/-- A blank or a comment takes the first character at least. -/
theorem afterSpace?_suffix (skipped : afterSpace? (c :: cs) = some rest) : rest <:+ cs := by
  unfold afterSpace? at skipped
  split at skipped
  · rename_i same
    cases same
    cases skipped
    exact (List.dropWhile_suffix _).trans (List.suffix_cons _ _)
  · rename_i same
    cases same
    cases skipped
    exact (afterCommentEnd_suffix _).trans (List.suffix_cons _ _)
  · rename_i same
    cases same
    split at skipped
    · cases skipped
      exact List.dropWhile_suffix _
    · split at skipped
      · cases skipped
        exact List.suffix_rfl
      · cases skipped
  · cases skipped

/-- More fuel than there are characters changes nothing. -/
theorem readFrom_eq {fuel fuel' : Nat} (enough : cs.length ≤ fuel) (enough' : cs.length ≤ fuel') :
    readFrom fuel cs = readFrom fuel' cs := by
  induction fuel generalizing fuel' cs with
  | zero =>
    obtain rfl := List.eq_nil_of_length_eq_zero (Nat.le_zero.mp enough)
    cases fuel' <;> rfl
  | succ fuel ih =>
    cases cs with
    | nil => cases fuel' <;> rfl
    | cons c cs =>
      obtain ⟨fuel', rfl⟩ := Nat.exists_eq_succ_of_ne_zero (Nat.ne_zero_of_lt enough')
      have onward {rest : List Char} (suffix : rest <:+ cs) :
          readFrom fuel rest = readFrom fuel' rest := by
        have shorter := suffix.length_le
        simp only [List.length_cons] at enough enough'
        exact ih (by omega) (by omega)
      simp only [readFrom]
      split
      · rename_i skipped
        exact onward (afterSpace?_suffix skipped)
      · rw [onward (Lexeme.read_suffix c cs)]

/-- The tokens of a text. -/
def lex (cs : List Char) : List Token :=
  readFrom cs.length cs

@[simp] theorem lex_nil : lex [] = [] := rfl

theorem lex_of_afterSpace? (skipped : afterSpace? cs = some rest) : lex cs = lex rest := by
  cases cs with
  | nil => cases skipped
  | cons c cs =>
    have shorter := (afterSpace?_suffix skipped).length_le
    simp only [lex, List.length_cons, readFrom, skipped]
    exact readFrom_eq shorter (Nat.le_refl _)

/-- A token in front of a text. -/
def before (lexeme : Lexeme) (written rest : List Char) : Token :=
  ⟨lexeme, written, written ++ rest⟩

theorem lex_cons (starts : afterSpace? (c :: cs) = none) :
    lex (c :: cs) = ⟨(Lexeme.read c cs).1, (c :: cs).take (cs.length + 1 -
      (Lexeme.read c cs).2.length), c :: cs⟩ :: lex (Lexeme.read c cs).2 := by
  have onward := readFrom_eq (Lexeme.read_suffix c cs).length_le (Nat.le_refl _)
  simp only [lex, List.length_cons, readFrom, starts, onward]

/-- The token that is read at the front of a text. -/
theorem lex_append {written : List Char} (starts : afterSpace? (c :: (written ++ rest)) = none)
    (read : Lexeme.read c (written ++ rest) = (lexeme, rest)) :
    lex (c :: (written ++ rest)) = before lexeme (c :: written) rest :: lex rest := by
  rw [lex_cons starts, read]
  simp only [before, List.length_append, List.cons.injEq, Token.mk.injEq, true_and, and_true]
  have taken : written.length + rest.length + 1 - rest.length = (c :: written).length := by
    simp only [List.length_cons]
    omega
  rw [taken, ← List.cons_append, List.take_left]
  exact ⟨rfl, rfl⟩

theorem afterSpace?_eq_none (minus : c ≠ '-') (slash : c ≠ '/') (space : isSpace c = false)
    (mark : c ≠ byteOrderMark) : afterSpace? (c :: cs) = none := by
  unfold afterSpace?
  split <;> simp_all


/-- Blanks in front of a token are passed over. -/
theorem lex_blank (cs : List Char) : lex (' ' :: cs) = lex (cs.dropWhile isSpace) :=
  lex_of_afterSpace? rfl

theorem lex_blank_cons (token : isSpace c = false) (cs : List Char) :
    lex (' ' :: c :: cs) = lex (c :: cs) := by
  rw [lex_blank, List.dropWhile_cons_of_neg (by simp [token])]

/-- A mark that nothing can follow to make another one. -/
theorem lex_mark {m : Mark} (cs : List Char)
    (plain : c = '(' ∧ m = .opening ∨ c = ')' ∧ m = .closing ∨ c = ',' ∧ m = .comma ∨
      c = '*' ∧ m = .star) : lex (c :: cs) = before (.mark m) [c] cs :: lex cs := by
  obtain ⟨rfl, rfl⟩ | ⟨rfl, rfl⟩ | ⟨rfl, rfl⟩ | ⟨rfl, rfl⟩ := plain
  all_goals exact @lex_append _ _ _ [] rfl rfl

theorem lex_dot (other : ∀ c ∈ cs.head?, isDigit c = false) :
    lex ('.' :: cs) = before (.mark .dot) ['.'] cs :: lex cs := by
  have point : cs.head?.any isDigit = false := by
    cases cs with
    | nil => rfl
    | cons c cs => simpa using other
  refine @lex_append _ _ _ [] (afterSpace?_eq_none ?_ ?_ rfl ?_) ?_
  · decide
  · decide
  · decide
  · unfold Lexeme.read
    have start : Lexeme.startsName '.' = false := by decide
    simp [start, point, isDigit, Lexeme.readMark]

/-- A name between double quotes is one token, unless another quote follows at once. -/
theorem lex_quoteIdent (name : String) (alone : rest.head? ≠ some '"') :
    lex ((Sql.quoteIdent name).toList ++ rest) =
      before (.name name true) (Sql.quoteIdent name).toList rest :: lex rest := by
  have spelled : (Sql.quoteIdent name).toList =
      '"' :: (Text.replaceChar '"' ['"', '"'] name.toList ++ ['"']) := by
    simp [Sql.quoteIdent, Sql.enclose]
  rw [spelled, List.cons_append]
  refine lex_append (afterSpace?_eq_none ?_ ?_ rfl ?_) ?_
  · decide
  · decide
  · decide
  · have start : Lexeme.startsName '"' = false := by decide
    have read := Sql.readEnclosed?_enclosed alone name.toList
    simp [Lexeme.read, start, isDigit, Lexeme.readQuoted, read]

/-- A name whose closing quote is missing is no token. -/
theorem lex_unclosed (text : List Char) :
    lex ('"' :: Text.replaceChar '"' ['"', '"'] text) =
      [⟨.unknown, '"' :: Text.replaceChar '"' ['"', '"'] text,
        '"' :: Text.replaceChar '"' ['"', '"'] text⟩] := by
  generalize inside : Text.replaceChar '"' ['"', '"'] text = cs
  have starts : afterSpace? ('"' :: cs) = none :=
    afterSpace?_eq_none (by decide) (by decide) rfl (by decide)
  have read : Lexeme.read '"' cs = (.unknown, []) := by
    have start : Lexeme.startsName '"' = false := by decide
    have none : Sql.readEnclosed? '"' cs = none := inside ▸ Sql.readEnclosed?_replaceChar text
    simp [Lexeme.read, start, isDigit, Lexeme.readQuoted, none]
  rw [lex_cons starts, read]
  simp

/-- A word is one token, unless a character follows that it could go on with. -/
theorem lex_word {word : List Char} (starts : Lexeme.startsName c) (plain : c ≠ 'x' ∧ c ≠ 'X')
    (space : isSpace c = false) (mark : c ≠ byteOrderMark)
    (goesOn : ∀ d ∈ word, Lexeme.continuesName d)
    (ends : ∀ d ∈ rest.head?, ¬Lexeme.continuesName d) :
    lex (c :: (word ++ rest)) =
      before (.word (String.ofList (c :: word))) (c :: word) rest :: lex rest := by
  have kind : ∀ d ∈ c :: word, Lexeme.continuesName d := by
    intro d member
    obtain rfl | member := List.mem_cons.mp member
    · simp [Lexeme.continuesName, starts]
    · exact goesOn d member
  refine lex_append (afterSpace?_eq_none ?_ ?_ space mark) ?_
  · rintro rfl
    exact absurd starts (by decide)
  · rintro rfl
    exact absurd starts (by decide)
  · have word := Text.takeWhile_run kind ends
    have left := Text.dropWhile_run kind ends
    rw [List.cons_append] at word left
    simp [Lexeme.read, plain, starts, Lexeme.readWord, word, left]

/-- A numbered place of a value, unless a digit follows. -/
theorem lex_placeholder {number : Nat} (positive : 0 < number)
    (ends : ∀ d ∈ rest.head?, ¬isDigit d) :
    lex (Sql.placeholder number ++ rest) =
      before (.parameter (some number)) (Sql.placeholder number) rest :: lex rest := by
  refine lex_append (afterSpace?_eq_none ?_ ?_ rfl ?_) ?_
  · decide
  · decide
  · decide
  · have kind : ∀ d ∈ digits number, isDigit d := fun d => isDigit_of_mem_digits
    have start : Lexeme.startsName '?' = false := by decide
    have taken := Text.takeWhile_run kind ends
    have left := Text.dropWhile_run kind ends
    have some := digits_ne_nil number
    simp [Lexeme.read, start, isDigit, Lexeme.readParameter, spanDigits, taken, left,
      foldDigits_digits, some, Nat.ne_of_gt positive]

end Token

end Statbook.Sqlite
