import Statbook.Proofs.Query.Rendering
import Statbook.Proofs.Sqlite.Closed
import Statbook.Proofs.Text.Pieces

/-!
# The tokens of a constraint

A constraint that compares a column is the column, part by part between double quotes, and a test
with numbered places for its values. It is read as these tokens wherever it stands, if a blank
follows or nothing does.
-/

namespace Statbook.Sqlite

namespace Token

variable {c : Char} {cs ds rest : List Char} {ls ms : List Lexeme}

/-- Some characters are read as tokens of these kinds in front of `rest`. -/
def Spells (cs : List Char) (ls : List Lexeme) (rest : List Char) : Prop :=
  ∃ ts, lex (cs ++ rest) = ts ++ lex rest ∧ ts.map Token.lexeme = ls

theorem Spells.append (first : Spells cs ls (ds ++ rest)) (second : Spells ds ms rest) :
    Spells (cs ++ ds) (ls ++ ms) rest := by
  obtain ⟨ts, tokens, kinds⟩ := first
  obtain ⟨us, tokens', kinds'⟩ := second
  refine ⟨ts ++ us, ?_, ?_⟩
  · rw [List.append_assoc, tokens, tokens', List.append_assoc]
  · rw [List.map_append, kinds, kinds']

theorem lexemes_of_same {ts us : List Token} (same : List.Forall₂ Same ts us) :
    us.map Token.lexeme = ts.map Token.lexeme := by
  induction same with
  | nil => rfl
  | cons first _ ih => rw [List.map_cons, List.map_cons, first.lexeme, ih]

theorem spells_closed (closed : endsOpen cs = false) (kinds : (lex cs).map Token.lexeme = ls)
    (ends : ∀ c ∈ rest.head?, c = ' ' ∨ c = ')') : Spells cs ls rest := by
  cases rest with
  | nil => exact ⟨lex cs, by simp, kinds⟩
  | cons stop more =>
    obtain ⟨ts, same, tokens⟩ := lex_append_of_closed closed (ends stop rfl) more
    refine ⟨ts, tokens, ?_⟩
    rw [← kinds]
    exact lexemes_of_same same

theorem spells_blank (token : isSpace c = false) (spells : Spells (c :: cs) ls rest) :
    Spells (' ' :: c :: cs) ls rest := by
  obtain ⟨ts, tokens, kinds⟩ := spells
  refine ⟨ts, ?_, kinds⟩
  rw [← tokens]
  exact lex_blank_cons token _

theorem spells_placeholder {number : Nat} (positive : 0 < number)
    (ends : ∀ d ∈ rest.head?, ¬Decimal.isDigit d) :
    Spells (Sql.placeholder number) [.parameter (some number)] rest :=
  ⟨[_], lex_placeholder positive ends, rfl⟩

/-- The tokens of a column in parts. -/
def columnLexemes : List String → List Lexeme
  | [] => []
  | [part] => [.name part true]
  | part :: parts => .name part true :: .mark .dot :: columnLexemes parts

/-- A column in parts. -/
def columnChars (parts : List String) : List Char :=
  Text.joinChars ['.'] (parts.map fun part => (Sql.quoteIdent part).toList)

theorem exists_columnChars_eq_cons (part : String) (parts : List String) :
    ∃ cs, columnChars (part :: parts) = '"' :: cs := by
  cases parts <;> simp [columnChars, Text.joinChars, Sql.quoteIdent, Sql.enclose]

theorem spells_column {parts : List String} (nonempty : parts ≠ []) (alone : rest.head? ≠ some '"') :
    Spells (columnChars parts) (columnLexemes parts) rest := by
  induction parts with
  | nil => exact absurd rfl nonempty
  | cons part parts ih =>
    cases parts with
    | nil => exact ⟨[_], lex_quoteIdent part alone, rfl⟩
    | cons next parts =>
      have dot : ∀ d ∈ (columnChars (next :: parts) ++ rest).head?, Decimal.isDigit d = false := by
        intro d first
        obtain ⟨cs, start⟩ := exists_columnChars_eq_cons next parts
        rw [start] at first
        cases first
        decide
      have onward := ih (List.cons_ne_nil _ _)
      have point : Spells ['.'] [.mark .dot] (columnChars (next :: parts) ++ rest) :=
        ⟨[_], lex_dot dot, rfl⟩
      have first : Spells (Sql.quoteIdent part).toList [.name part true]
          ('.' :: columnChars (next :: parts) ++ rest) := ⟨[_], lex_quoteIdent part (by simp), rfl⟩
      have whole := first.append (point.append onward)
      simpa [columnChars, Text.joinChars, columnLexemes] using whole

/-- The tokens of the places of values, after so many that were taken before. -/
def valueLexemes (taken : Nat) : (count : Nat) → List Lexeme
  | 0 => []
  | 1 => [.parameter (some (taken + 1))]
  | count + 2 => .parameter (some (taken + 1)) :: .mark .comma :: valueLexemes (taken + 1) (count + 1)

theorem spells_values {values : List SqlValue} (nonempty : values ≠ []) (taken : Nat)
    (ends : ∀ d ∈ rest.head?, ¬Decimal.isDigit d) :
    Spells (Sql.boundChars (taken + 1) (Constraint.valuePieces values))
      (valueLexemes taken values.length) rest := by
  induction values generalizing taken with
  | nil => exact absurd rfl nonempty
  | cons value values ih =>
    cases values with
    | nil =>
      have place := spells_placeholder (Nat.succ_pos taken) ends
      simpa [Constraint.valuePieces, Sql.joinPieces, Sql.boundChars, valueLexemes] using place
    | cons next values =>
      have onward := ih (List.cons_ne_nil _ _) (taken + 1)
      obtain ⟨cs, start⟩ : ∃ cs, Sql.boundChars (taken + 1 + 1)
          (Constraint.valuePieces (next :: values)) = '?' :: cs := by
        cases values <;> simp [Constraint.valuePieces, Sql.joinPieces, Sql.boundChars, Sql.placeholder]
      have chars : Sql.boundChars (taken + 1) (Constraint.valuePieces (value :: next :: values)) =
          Sql.placeholder (taken + 1) ++ ([','] ++ (' ' :: '?' :: cs)) := by
        rw [← start]
        rfl
      rw [start] at onward
      have comma : Spells [','] [.mark .comma] (' ' :: '?' :: cs ++ rest) :=
        ⟨[_], lex_mark _ (by simp), rfl⟩
      have place := @spells_placeholder ([','] ++ (' ' :: '?' :: cs) ++ rest) _
        (Nat.succ_pos taken) (by simp [Decimal.isDigit])
      rw [chars]
      exact place.append (comma.append (spells_blank rfl onward))

end Token

open Token

variable {table column : String} {k : Constraint} {rest : List Char}

/-- The column whose value a constraint compares. -/
def comparedColumn? : Constraint → Option String
  | .sql _ => none
  | .equals column _ => some column
  | .oneOf _ [] => none
  | .oneOf column _ => some column
  | .between column _ _ => some column

/-- What a constraint says of its column, after so many values that were taken before. -/
def testChars (taken : Nat) : Constraint → List Char
  | .sql _ => []
  | .equals _ .null => " IS NULL".toList
  | .equals _ _ => [' ', '='] ++ ' ' :: Sql.placeholder (taken + 1)
  | .oneOf _ values =>
    " IN".toList ++ ' ' :: '(' :: (Sql.boundChars (taken + 1) (Constraint.valuePieces values) ++ [')'])
  | .between _ _ _ =>
    " BETWEEN".toList ++ ' ' :: (Sql.placeholder (taken + 1) ++
      (" AND".toList ++ ' ' :: Sql.placeholder (taken + 2)))

/-- The tokens of that. -/
def testLexemes (taken : Nat) : Constraint → List Lexeme
  | .sql _ => []
  | .equals _ .null => [.word "IS", .word "NULL"]
  | .equals _ _ => [.mark .equal, .parameter (some (taken + 1))]
  | .oneOf _ values =>
    .word "IN" :: .mark .opening :: (valueLexemes taken values.length ++ [.mark .closing])
  | .between _ _ _ =>
    [.word "BETWEEN", .parameter (some (taken + 1)), .word "AND", .parameter (some (taken + 2))]

theorem boundChars_text (taken : Nat) (name test : String) (pieces : List Sql.Piece) :
    Sql.boundChars taken (.text (name ++ test) :: pieces) =
      name.toList ++ (test.toList ++ Sql.boundChars taken pieces) := by
  simp [Sql.boundChars, String.toList_append]

theorem boundChars_pieces (compares : comparedColumn? k = some column) (taken : Nat) :
    Sql.boundChars (taken + 1) (k.pieces table) =
      (Sql.qualifyColumn table column).toList ++ testChars taken k := by
  have texts : " = ".toList = [' ', '='] ++ [' '] ∧ " IN (".toList = " IN".toList ++ [' ', '('] ∧
      " BETWEEN ".toList = " BETWEEN".toList ++ [' '] ∧ " AND ".toList = " AND".toList ++ [' '] ∧
      ")".toList = [')'] := by decide
  obtain ⟨equal, isIn, between, and, closing⟩ := texts
  cases k with
  | sql fragment => cases compares
  | equals column value =>
    cases compares
    cases value with
    | null =>
      refine (boundChars_text _ _ _ _).trans (congrArg _ ?_)
      exact List.append_nil _
    | integer | real | text =>
      refine (boundChars_text _ _ _ _).trans (congrArg _ ?_)
      rw [equal]
      show _ ++ (Sql.placeholder (taken + 1) ++ []) = _
      rw [List.append_nil, List.append_assoc]
      rfl
  | oneOf column values =>
    cases values with
    | nil => cases compares
    | cons value values =>
      cases compares
      refine (boundChars_text _ _ _ _).trans (congrArg _ ?_)
      rw [isIn, Sql.boundChars_append, List.append_assoc]
      show _ ++ ([' ', '('] ++ (_ ++ (")".toList ++ []))) = _
      rw [closing, List.append_nil]
      rfl
  | between column first last =>
    cases compares
    refine (boundChars_text _ _ _ _).trans (congrArg _ ?_)
    rw [between, List.append_assoc]
    show _ ++ ([' '] ++ (_ ++ (" AND ".toList ++ (Sql.placeholder (taken + 2) ++ [])))) = _
    rw [and, List.append_nil, List.append_assoc " AND".toList]
    rfl

theorem spells_test (compares : comparedColumn? k = some column) (taken : Nat)
    (ends : ∀ c ∈ rest.head?, c = ' ') : Spells (testChars taken k) (testLexemes taken k) rest := by
  have noDigit : ∀ c ∈ rest.head?, ¬Decimal.isDigit c := by
    intro c first
    rw [ends c first]
    decide
  have place (taken : Nat) {rest : List Char} (ends : ∀ c ∈ rest.head?, ¬Decimal.isDigit c) :
      Spells (' ' :: Sql.placeholder (taken + 1)) [.parameter (some (taken + 1))] rest :=
    spells_blank rfl (spells_placeholder (Nat.succ_pos taken) ends)
  have word {cs rest : List Char} {ls : List Lexeme} (closed : endsOpen cs = false)
      (kinds : (lex cs).map Token.lexeme = ls) : Spells cs ls (' ' :: rest) := by
    refine spells_closed closed kinds ?_
    intro c first
    cases first
    exact .inl rfl
  cases k with
  | sql fragment => cases compares
  | equals column value =>
    cases value with
    | null =>
      show Spells " IS NULL".toList [.word "IS", .word "NULL"] rest
      exact spells_closed (by decide +kernel) (by decide +kernel) fun c first => .inl (ends c first)
    | integer | real | text =>
      have equal {rest : List Char} : Spells [' ', '='] [.mark .equal] (' ' :: rest) :=
        word (by decide +kernel) (by decide +kernel)
      exact equal.append (place taken noDigit)
  | oneOf column values =>
    cases values with
    | nil => cases compares
    | cons value values =>
      have closing : Spells [')'] [.mark .closing] rest := ⟨[_], lex_mark _ (by simp), rfl⟩
      have places := @spells_values ([')'] ++ rest) _ (List.cons_ne_nil value values) taken
        (by simp [Decimal.isDigit])
      have opening {rest : List Char} : Spells ['('] [.mark .opening] rest :=
        ⟨[_], lex_mark _ (by simp), rfl⟩
      have isIn {rest : List Char} : Spells " IN".toList [.word "IN"] (' ' :: rest) :=
        word (by decide +kernel) (by decide +kernel)
      exact isIn.append (spells_blank rfl (opening.append (places.append closing)))
  | between column first last =>
    have and {rest : List Char} : Spells " AND".toList [.word "AND"] (' ' :: rest) :=
      word (by decide +kernel) (by decide +kernel)
    have isBetween {rest : List Char} : Spells " BETWEEN".toList [.word "BETWEEN"] (' ' :: rest) :=
      word (by decide +kernel) (by decide +kernel)
    have second := and.append (place (taken + 1) noDigit)
    have first := @place taken (" AND".toList ++ ' ' :: Sql.placeholder (taken + 2) ++ rest) (by
      intro c first
      cases first
      decide)
    exact isBetween.append (first.append second)

/-- The parts of a column that is no expression; one without dots belongs to the table. -/
def columnParts (table column : String) : List String :=
  if column.toList.contains '.' then Text.splitAt '.' column else [table, column]

theorem qualifyColumn_toList (plain : Sql.isExpression column = false) :
    (Sql.qualifyColumn table column).toList = columnChars (columnParts table column) := by
  have dot : ".".toList = ['.'] := by decide
  unfold Sql.qualifyColumn columnParts columnChars
  rw [if_neg (by simp [plain])]
  split
  · rw [Text.joinWith, String.toList_ofList, dot, List.map_map]
    rfl
  · rw [String.toList_append, String.toList_append, dot]
    rfl

theorem two_le_length_columnParts (table column : String) :
    2 ≤ (columnParts table column).length := by
  unfold columnParts
  split
  · rename_i dotted
    have member : '.' ∈ column.toList := by simpa using dotted
    rw [Text.splitAt, List.length_map]
    generalize column.toList = cs at member
    induction cs with
    | nil => cases member
    | cons c cs ih =>
      have left := List.length_pos_iff.mpr (Text.splitChars_ne_nil '.' cs)
      unfold Text.splitChars
      split
      · rw [List.length_cons]
        omega
      · rename_i other
        have onward := ih ((List.mem_cons.mp member).resolve_left (Ne.symm other))
        split
        · rename_i none
          exact absurd none (Text.splitChars_ne_nil '.' cs)
        · rename_i piece pieces found
          rw [found] at onward
          simpa using onward
  · exact Nat.le_refl 2

theorem nul_mem_columnParts (whole : nul ∉ table.toList) :
    (∃ part ∈ columnParts table column, nul ∈ part.toList) ↔ nul ∈ column.toList := by
  have other : nul ≠ '.' := by decide
  unfold columnParts
  split
  · rw [← Text.mem_splitChars other, Text.splitAt]
    simp
  · simp [whole]

end Statbook.Sqlite
