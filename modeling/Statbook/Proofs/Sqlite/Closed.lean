import Mathlib.Data.List.Forall2
import Mathlib.Data.List.TakeWhile
import Statbook.Proofs.Sqlite.Token

/-!
# Texts with an end

A text that ends inside a comment or between quotes takes part of what follows it. Any other text
has the same tokens wherever it stands, if a blank or a closing parenthesis follows.
-/

namespace Statbook.Sqlite

open Decimal

variable {stop : Char}

section Runs

variable {p : Char → Bool}

theorem takeWhile_append_stop (ends : p stop = false) (cs more : List Char) :
    (cs ++ stop :: more).takeWhile p = cs.takeWhile p := by
  induction cs with
  | nil => simp [ends]
  | cons c cs ih =>
    by_cases kind : p c
    · simp [kind, ih]
    · simp [kind]

theorem dropWhile_append_stop (ends : p stop = false) (cs more : List Char) :
    (cs ++ stop :: more).dropWhile p = cs.dropWhile p ++ stop :: more := by
  induction cs with
  | nil => simp [ends]
  | cons c cs ih =>
    by_cases kind : p c
    · simp [kind, ih]
    · simp [kind]

theorem dropWhile_append_of_mem {cs : List Char} {c : Char} (member : c ∈ cs)
    (other : p c = false) (more : List Char) :
    (cs ++ more).dropWhile p = cs.dropWhile p ++ more := by
  have left : (cs.dropWhile p).isEmpty = false := by
    rw [List.isEmpty_eq_false_iff]
    intro none
    have all := List.dropWhile_eq_nil_iff.mp none c member
    simp [other] at all
  rw [List.dropWhile_append, left]
  rfl

end Runs

namespace NumberLiteral

theorem splitSign_append (ends : stop = ' ' ∨ stop = ')') (cs more : List Char) :
    splitSign (cs ++ stop :: more) = ((splitSign cs).1, (splitSign cs).2 ++ stop :: more) := by
  cases cs with
  | nil =>
    obtain rfl | rfl := ends <;> rfl
  | cons c cs =>
    unfold splitSign
    by_cases minus : c = '-'
    · subst minus
      rfl
    · by_cases plus : c = '+'
      · subst plus
        rfl
      · simp [minus, plus]

theorem spanGrouped_append {isOfKind : Char → Bool} (ends : stop = ' ' ∨ stop = ')')
    (other : isOfKind stop = false) (cs more : List Char) :
    spanGrouped isOfKind (cs ++ stop :: more) =
      ((spanGrouped isOfKind cs).1, (spanGrouped isOfKind cs).2 ++ stop :: more) := by
  have stops : (isOfKind stop || decide (stop = separator)) = false := by
    obtain rfl | rfl := ends <;> simp [other, separator]
  exact Prod.ext (takeWhile_append_stop stops cs more) (dropWhile_append_stop stops cs more)

theorem isDigit_stop (ends : stop = ' ' ∨ stop = ')') : isDigit stop = false := by
  obtain rfl | rfl := ends <;> decide

theorem isHexDigit_stop (ends : stop = ' ' ∨ stop = ')') : Text.isHexDigit stop = false := by
  obtain rfl | rfl := ends <;> decide

theorem head?_any_append {p : Char → Bool} (other : p stop = false) (cs more : List Char) :
    (cs ++ stop :: more).head?.any p = cs.head?.any p := by
  cases cs <;> simp [other]

theorem readGroupedPower_append (ends : stop = ' ' ∨ stop = ')') (cs more : List Char) :
    readGroupedPower (cs ++ stop :: more) =
      ((readGroupedPower cs).1, (readGroupedPower cs).2 ++ stop :: more) := by
  have digit := isDigit_stop ends
  cases cs with
  | nil =>
    obtain rfl | rfl := ends <;> rfl
  | cons c cs =>
    dsimp only [readGroupedPower, List.cons_append]
    rw [splitSign_append ends, head?_any_append digit, spanGrouped_append ends digit]
    split <;> rfl

theorem afterHexMark?_append (ends : stop = ' ' ∨ stop = ')') (cs more : List Char) :
    afterHexMark? (cs ++ stop :: more) =
      (afterHexMark? cs).map fun (mark, rest) => (mark, rest ++ stop :: more) := by
  have hex := isHexDigit_stop ends
  match cs with
  | [] => obtain rfl | rfl := ends <;> simp [afterHexMark?]
  | [c] =>
    have short : afterHexMark? [c] = none := by simp [afterHexMark?]
    rw [short]
    unfold afterHexMark?
    obtain rfl | rfl := ends
    all_goals
      split
      · rename_i mark d rest same
        have marks : mark ≠ 'x' ∧ mark ≠ 'X' := by
          cases same
          decide
        simp [marks]
      · rfl
  | [c, d] =>
    have short : afterHexMark? [c, d] = none := by simp [afterHexMark?]
    rw [short]
    unfold afterHexMark?
    split
    · simp_all
    · rfl
  | c :: d :: e :: cs =>
    by_cases zero : c = '0'
    · subst zero
      simp only [List.cons_append, afterHexMark?]
      split <;> rfl
    · have other (rest : List Char) : afterHexMark? (c :: d :: e :: rest) = none := by
        simp [afterHexMark?, zero]
      simp only [List.cons_append, other, Option.map_none]

theorem read_append (ends : stop = ' ' ∨ stop = ')') (cs more : List Char) :
    read (cs ++ stop :: more) = ((read cs).1, (read cs).2 ++ stop :: more) := by
  have digit := isDigit_stop ends
  have hex := isHexDigit_stop ends
  unfold read
  rw [afterHexMark?_append ends]
  cases afterHexMark? cs with
  | some found =>
    obtain ⟨mark, rest⟩ := found
    simp only [Option.map_some, spanGrouped_append ends hex]
  | none =>
    simp only [Option.map_none, spanGrouped_append ends digit]
    generalize (spanGrouped isDigit cs).2 = rest
    cases rest with
    | nil => obtain rfl | rfl := ends <;> rfl
    | cons c rest =>
      by_cases point : c = '.'
      · subst point
        simp only [List.cons_append, spanGrouped_append ends digit, readGroupedPower_append ends]
      · have power := readGroupedPower_append ends (c :: rest) more
        simp only [List.cons_append] at power ⊢
        simp [point, power]

end NumberLiteral

namespace Lexeme

/-- A character that stands after others is not the first one of them. -/
theorem append_ne_cons {d : Char} {cs more : List Char} (other : ∀ ds, cs = d :: ds → False)
    (ends : stop ≠ d) (ds : List Char) : cs ++ stop :: more ≠ d :: ds := by
  cases cs with
  | nil =>
    intro same
    exact ends (List.cons.inj same).1
  | cons e cs =>
    intro same
    exact other cs (by rw [(List.cons.inj same).1])

/-- The characters with which a mark starts. -/
def markStarts : List Char :=
  ['=', '!', '<', '>', '(', ')', ',', '.', '*', '-', '+', ';', '|', '&', '/', '%', '~']

theorem readMark_of_notMem {c : Char} (other : c ∉ markStarts) (cs : List Char) :
    readMark (c :: cs) = (unknown, cs) := by
  unfold readMark
  split
  case h_27 => rfl
  all_goals
    rename_i same
    cases same
    exact absurd (by decide) other

theorem readMark_append (ends : stop = ' ' ∨ stop = ')') {all : List Char} (some : all ≠ [])
    (more : List Char) :
    readMark (all ++ stop :: more) = ((readMark all).1, (readMark all).2 ++ stop :: more) := by
  have two {d : Char} {cs : List Char} (other : ∀ ds, cs = d :: ds → False)
      (plain : d ≠ ' ' ∧ d ≠ ')') : ∀ ds, cs ++ stop :: more ≠ d :: ds := by
    refine append_ne_cons other ?_
    rintro rfl
    exact ends.elim plain.1 plain.2
  fun_cases readMark all
  case case2 equal => simp [readMark, two equal]
  case case7 unequal atMost shift => simp [readMark, two unequal, two atMost, two shift]
  case case10 atLeast shift => simp [readMark, two atLeast, two shift]
  case case17 longer => simp [readMark, two longer]
  case case18 arrow => simp [readMark, two arrow]
  case case22 double => simp [readMark, two double]
  -- No mark stands at the front. Each hypothesis rules out the marks with one first character; only
  -- for `!`, which is no mark alone, what follows has to be looked at.
  case case27 _ e b _ _ _ l _ _ g o c' m d s _ _ h p n _ i a v r t =>
    obtain ⟨c, cs, rfl⟩ := List.exists_cons_of_ne_nil some
    rw [List.cons_append]
    by_cases bang : c = '!'
    · subst bang
      have other : ∀ ds, cs = '=' :: ds → False := fun ds same => b ds (by rw [same])
      simp [readMark, two other]
    · refine readMark_of_notMem (fun mark => ?_) _
      simp only [markStarts, List.mem_cons, List.not_mem_nil, or_false] at mark
      rcases mark with rfl | rfl | rfl | rfl | rfl | rfl | rfl | rfl | rfl | rfl | rfl | rfl |
        rfl | rfl | rfl | rfl | rfl
      · exact e _ rfl
      · exact bang rfl
      · exact l _ rfl
      · exact g _ rfl
      · exact o _ rfl
      · exact c' _ rfl
      · exact m _ rfl
      · exact d _ rfl
      · exact s _ rfl
      · exact h _ rfl
      · exact p _ rfl
      · exact n _ rfl
      · exact i _ rfl
      · exact a _ rfl
      · exact v _ rfl
      · exact r _ rfl
      · exact t _ rfl
  all_goals rfl

theorem continuesName_stop (ends : stop = ' ' ∨ stop = ')') : continuesName stop = false := by
  obtain rfl | rfl := ends <;> decide

theorem readNumber_append (ends : stop = ' ' ∨ stop = ')') (cs more : List Char) :
    readNumber (cs ++ stop :: more) = ((readNumber cs).1, (readNumber cs).2 ++ stop :: more) := by
  have other := continuesName_stop ends
  unfold readNumber
  rw [NumberLiteral.read_append ends]
  dsimp only
  rw [NumberLiteral.head?_any_append other, dropWhile_append_stop other]
  split <;> rfl

theorem readParameter_append (ends : stop = ' ' ∨ stop = ')') (cs more : List Char) :
    readParameter (cs ++ stop :: more) =
      ((readParameter cs).1, (readParameter cs).2 ++ stop :: more) := by
  have digit := NumberLiteral.isDigit_stop ends
  unfold readParameter spanDigits
  rw [takeWhile_append_stop digit, dropWhile_append_stop digit]
  dsimp only
  split
  · rfl
  · split <;> rfl

theorem readWord_append (ends : stop = ' ' ∨ stop = ')') (cs more : List Char) :
    readWord (cs ++ stop :: more) = ((readWord cs).1, (readWord cs).2 ++ stop :: more) := by
  have other := continuesName_stop ends
  unfold readWord
  rw [takeWhile_append_stop other, dropWhile_append_stop other]

theorem readQuoted_append {quote : Char} (make : String → Lexeme) (other : stop ≠ quote)
    {cs : List Char} (closed : (Sql.readEnclosed? quote cs).isSome) (more : List Char) :
    readQuoted quote make (cs ++ stop :: more) =
      ((readQuoted quote make cs).1, (readQuoted quote make cs).2 ++ stop :: more) := by
  obtain ⟨⟨content, rest⟩, read⟩ := Option.isSome_iff_exists.mp closed
  obtain ⟨written, alone⟩ := Sql.eq_of_readEnclosed? read
  have alone' : (rest ++ stop :: more).head? ≠ some quote := by
    cases rest with
    | nil => simpa using other
    | cons c rest => simpa using alone
  have read' := Sql.readEnclosed?_enclosed alone' content
  unfold readQuoted
  rw [read, written, List.append_assoc, List.cons_append, read']

theorem splitFirst_append {sep : Char} {cs : List Char} (closed : (Text.splitFirst sep cs).isSome)
    (more : List Char) : Text.splitFirst sep (cs ++ more) =
      (Text.splitFirst sep cs).map fun (before, rest) => (before, rest ++ more) := by
  induction cs with
  | nil => cases closed
  | cons c cs ih =>
    simp only [List.cons_append, Text.splitFirst] at closed ⊢
    by_cases same : c = sep
    · simp [same]
    · rw [if_neg same, Option.isSome_map] at closed
      rw [if_neg same, if_neg same, ih closed]
      cases Text.splitFirst sep cs <;> rfl

theorem readBracketed_append {cs : List Char} (closed : (Text.splitFirst ']' cs).isSome)
    (more : List Char) :
    readBracketed (cs ++ more) = ((readBracketed cs).1, (readBracketed cs).2 ++ more) := by
  obtain ⟨split, found⟩ := Option.isSome_iff_exists.mp closed
  unfold readBracketed
  rw [splitFirst_append closed, found]
  rfl

theorem readBlob_append (ends : stop = ' ' ∨ stop = ')') {cs : List Char}
    (closed : '\'' ∈ cs.dropWhile Text.isHexDigit) (more : List Char) :
    readBlob (cs ++ stop :: more) = ((readBlob cs).1, (readBlob cs).2 ++ stop :: more) := by
  have digit := NumberLiteral.isHexDigit_stop ends
  unfold readBlob
  rw [takeWhile_append_stop digit, dropWhile_append_stop digit]
  dsimp only
  generalize cs.dropWhile Text.isHexDigit = rest at closed
  cases rest with
  | nil => cases closed
  | cons c rest =>
    by_cases quote : c = '\''
    · subst quote
      rfl
    · have later := dropWhile_append_of_mem (p := (· ≠ '\'')) closed (by simp)
        (stop :: more)
      have some : (c :: rest).dropWhile (· ≠ '\'') ≠ [] := by
        intro none
        have all := List.dropWhile_eq_nil_iff.mp none _ closed
        simp at all
      obtain ⟨d, ds, left⟩ := List.exists_cons_of_ne_nil some
      rw [List.cons_append] at later ⊢
      split
      · rename_i same
        exact absurd (List.cons.inj same).1 quote
      · split
        · rename_i same
          exact absurd (List.cons.inj same).1 quote
        · rw [later, left]
          rfl

/-- Whether the token that starts with `c` stands between quotes without the closing one. -/
def isOpen (c : Char) (cs : List Char) : Bool :=
  if c = 'x' ∨ c = 'X' then
    match cs with
    | '\'' :: rest => !(rest.dropWhile Text.isHexDigit).contains '\''
    | _ => false
  else if c = '\'' ∨ c = '"' ∨ c = '`' then (Sql.readEnclosed? c cs).isNone
  else if c = '[' then (Text.splitFirst ']' cs).isNone
  else false

/-- A token that is not between quotes without an end is the same wherever it stands. -/
theorem read_append (ends : stop = ' ' ∨ stop = ')') {c : Char} {cs : List Char}
    (closed : isOpen c cs = false) (more : List Char) :
    read c (cs ++ stop :: more) = ((read c cs).1, (read c cs).2 ++ stop :: more) := by
  have digit := NumberLiteral.isDigit_stop ends
  have quote : stop ≠ '\'' ∧ stop ≠ '"' ∧ stop ≠ '`' := by
    obtain rfl | rfl := ends <;> decide
  unfold isOpen at closed
  unfold read
  by_cases blob : c = 'x' ∨ c = 'X'
  · rw [if_pos blob] at closed
    rw [if_pos blob, if_pos blob]
    cases cs with
    | nil =>
      rw [List.nil_append]
      split
      · rename_i same
        exact absurd (List.cons.inj same).1 quote.1
      · exact readWord_append ends [c] more
    | cons d cs =>
      by_cases isQuote : d = '\''
      · subst isQuote
        exact readBlob_append ends (by simpa using closed) more
      · rw [List.cons_append]
        split
        · rename_i same
          exact absurd (List.cons.inj same).1 isQuote
        · split
          · rename_i same
            exact absurd (List.cons.inj same).1 isQuote
          · exact readWord_append ends (c :: d :: cs) more
  · rw [if_neg blob] at closed
    rw [if_neg blob, if_neg blob, NumberLiteral.head?_any_append digit]
    split
    · exact readWord_append ends (c :: cs) more
    · split
      · exact readNumber_append ends (c :: cs) more
      · by_cases between : c = '\'' ∨ c = '"' ∨ c = '`'
        · rw [if_pos between] at closed
          have closed : (Sql.readEnclosed? c cs).isSome := by simpa using closed
          obtain rfl | rfl | rfl := between
          · exact readQuoted_append text quote.1 closed more
          · exact readQuoted_append (name · true) quote.2.1 closed more
          · exact readQuoted_append (name · false) quote.2.2 closed more
        · simp only [not_or] at between
          rw [if_neg (by simp [between])] at closed
          simp only [between, if_false]
          by_cases bracket : c = '['
          · rw [if_pos bracket] at closed
            simp only [bracket, if_true]
            exact readBracketed_append (by simpa using closed) _
          · rw [if_neg bracket, if_neg bracket]
            split
            · exact readParameter_append ends cs more
            · exact readMark_append ends (List.cons_ne_nil c cs) more

end Lexeme

namespace Token

/-- Whether a comment that has an end mark has it. -/
def endsComment : List Char → Bool
  | '*' :: '/' :: _ => true
  | _ :: cs => endsComment cs
  | [] => false

/-- Whether a comment at the front has no end. -/
def opensComment : List Char → Bool
  | '-' :: '-' :: cs => !cs.contains '\n'
  | '/' :: '*' :: cs => !endsComment cs
  | _ => false

/-- Whether a text ends inside a comment or between quotes; `fuel` bounds its length. -/
def endsOpenFrom : (fuel : Nat) → List Char → Bool
  | 0, _ => false
  | _, [] => false
  | fuel + 1, c :: cs =>
    opensComment (c :: cs) ||
      match afterSpace? (c :: cs) with
      | some rest => endsOpenFrom fuel rest
      | none => Lexeme.isOpen c cs || endsOpenFrom fuel (Lexeme.read c cs).2

/-- Whether a text ends inside a comment or between quotes. -/
def endsOpen (cs : List Char) : Bool :=
  endsOpenFrom cs.length cs

/-- A token that is the same and is written in the same way. -/
structure Same (t t' : Token) : Prop where
  lexeme : t'.lexeme = t.lexeme
  written : t'.written = t.written

variable {c : Char} {cs rest : List Char}

theorem afterCommentEnd_append (ended : endsComment cs) (more : List Char) :
    afterCommentEnd (cs ++ more) = afterCommentEnd cs ++ more := by
  induction cs with
  | nil => cases ended
  | cons c cs ih =>
    cases cs with
    | nil => simp [endsComment] at ended
    | cons d cs =>
      by_cases mark : c = '*' ∧ d = '/'
      · obtain ⟨rfl, rfl⟩ := mark
        rfl
      · have later (cs : List Char) : afterCommentEnd (c :: d :: cs) = afterCommentEnd (d :: cs) := by
          rw [afterCommentEnd]
          rintro _ rfl same
          exact mark ⟨rfl, (List.cons.inj same).1⟩
        have ended' : endsComment (d :: cs) := by
          rw [endsComment] at ended
          · exact ended
          · rintro _ rfl same
            exact mark ⟨rfl, (List.cons.inj same).1⟩
        have onward := ih ended'
        rw [List.cons_append] at onward
        rw [List.cons_append, List.cons_append, later, later, onward]

/-- Whether a comment stands at the front. -/
def IsComment (c : Char) (cs : List Char) : Prop :=
  c = '-' ∧ cs.head? = some '-' ∨ c = '/' ∧ cs.head? = some '*'

theorem isComment_append (ends : stop = ' ' ∨ stop = ')') (c : Char) (cs more : List Char) :
    IsComment c (cs ++ stop :: more) ↔ IsComment c cs := by
  cases cs with
  | nil => obtain rfl | rfl := ends <;> simp [IsComment]
  | cons d cs => rfl

theorem afterSpace?_of_not (other : ¬IsComment c cs) : afterSpace? (c :: cs) =
    if isSpace c && c ≠ '\x0B' then some (cs.dropWhile isSpace)
    else if c = byteOrderMark then some cs
    else none := by
  rw [afterSpace?]
  · rintro ds rfl rfl
    exact other (.inl ⟨rfl, rfl⟩)
  · rintro d ds rfl rfl
    exact other (.inr ⟨rfl, rfl⟩)

theorem exists_afterSpace? (closed : opensComment (c :: cs) = false) (comment : IsComment c cs)
    (more : List Char) : ∃ rest, afterSpace? (c :: cs) = some rest ∧
      afterSpace? (c :: (cs ++ more)) = some (rest ++ more) := by
  obtain ⟨rfl, first⟩ | ⟨rfl, first⟩ := comment
  · obtain ⟨ds, rfl⟩ := List.head?_eq_some_iff.mp first
    have newline : '\n' ∈ ds := by simpa [opensComment] using closed
    refine ⟨_, rfl, ?_⟩
    rw [List.cons_append, afterSpace?, dropWhile_append_of_mem newline (by simp)]
  · obtain ⟨ds, rfl⟩ := List.head?_eq_some_iff.mp first
    have ended : endsComment ds := by simpa [opensComment] using closed
    cases ds with
    | nil => cases ended
    | cons d ds =>
      refine ⟨_, rfl, ?_⟩
      have onward := afterCommentEnd_append ended more
      rw [List.cons_append] at onward
      rw [List.cons_append, List.cons_append, afterSpace?, onward]

theorem afterSpace?_append_eq_none (closed : opensComment (c :: cs) = false)
    (starts : afterSpace? (c :: cs) = none) (ends : stop = ' ' ∨ stop = ')') (more : List Char) :
    afterSpace? (c :: (cs ++ stop :: more)) = none := by
  by_cases comment : IsComment c cs
  · obtain ⟨rest, skipped, -⟩ := exists_afterSpace? closed comment []
    rw [starts] at skipped
    cases skipped
  · rw [afterSpace?_of_not comment] at starts
    rw [afterSpace?_of_not (mt (isComment_append ends c cs more).mp comment)]
    split at starts
    · cases starts
    · rename_i noSpace
      rw [if_neg noSpace]
      split at starts
      · cases starts
      · rename_i noMark
        exact if_neg noMark

/-- What follows a blank or a comment with an end has the same tokens if something is added. -/
theorem lex_afterSpace?_append (closed : opensComment (c :: cs) = false)
    (skipped : afterSpace? (c :: cs) = some rest) (ends : stop = ' ' ∨ stop = ')') (more : List Char) :
    lex (c :: (cs ++ stop :: more)) = lex (rest ++ stop :: more) := by
  by_cases comment : IsComment c cs
  · obtain ⟨rest', skipped', onward⟩ := exists_afterSpace? closed comment (stop :: more)
    obtain rfl : rest' = rest := Option.some.inj (skipped'.symm.trans skipped)
    exact lex_of_afterSpace? onward
  · have onward := afterSpace?_of_not (mt (isComment_append ends c cs more).mp comment)
    rw [afterSpace?_of_not comment] at skipped
    split at skipped
    · rename_i space
      rw [if_pos space] at onward
      cases skipped
      rw [lex_of_afterSpace? onward, List.dropWhile_append]
      split
      · rename_i blank
        -- Only blanks stand in front of what follows; it is passed over with them if it is one.
        rw [List.isEmpty_iff.mp blank, List.nil_append]
        obtain rfl | rfl := ends
        · exact (lex_blank more).symm
        · rfl
      · rfl
    · rename_i noSpace
      rw [if_neg noSpace] at onward
      split at skipped
      · rename_i mark
        rw [if_pos mark] at onward
        cases skipped
        exact lex_of_afterSpace? onward
      · cases skipped

/-- A text that does not end inside a comment or between quotes has its own tokens in front of what
follows a blank or a closing parenthesis. -/
theorem lex_append_of_closed (closed : endsOpen cs = false) (ends : stop = ' ' ∨ stop = ')')
    (more : List Char) : ∃ ts, List.Forall₂ Same (lex cs) ts ∧
      lex (cs ++ stop :: more) = ts ++ lex (stop :: more) := by
  unfold endsOpen at closed
  generalize enough : cs.length = fuel at closed
  replace enough : cs.length ≤ fuel := Nat.le_of_eq enough
  induction fuel generalizing cs with
  | zero =>
    obtain rfl := List.eq_nil_of_length_eq_zero (Nat.le_zero.mp enough)
    exact ⟨[], .nil, rfl⟩
  | succ fuel ih =>
    cases cs with
    | nil => exact ⟨[], .nil, rfl⟩
    | cons c cs =>
      rw [List.length_cons] at enough
      rw [endsOpenFrom, Bool.or_eq_false_iff] at closed
      obtain ⟨noComment, closed⟩ := closed
      rw [List.cons_append]
      cases skipped : afterSpace? (c :: cs) with
      | some rest =>
        have shorter := (afterSpace?_suffix skipped).length_le
        simp only [skipped] at closed
        rw [lex_of_afterSpace? skipped, lex_afterSpace?_append noComment skipped ends]
        exact ih closed (by omega)
      | none =>
        have shorter := (Lexeme.read_suffix c cs).length_le
        simp only [skipped, Bool.or_eq_false_iff] at closed
        have read := Lexeme.read_append ends closed.1 more
        obtain ⟨ts, same, tokens⟩ := ih closed.2 (by omega)
        rw [lex_cons skipped, lex_cons (afterSpace?_append_eq_none noComment skipped ends more), read,
          tokens]
        refine ⟨_ :: ts, ?_, rfl⟩
        refine .cons ⟨rfl, ?_⟩ same
        dsimp only
        rw [← List.cons_append, List.take_append_of_le_length]
        · simp only [List.length_append, List.length_cons]
          congr 1
          omega
        · simp only [List.length_append, List.length_cons]
          omega

end Token

end Statbook.Sqlite
