import Statbook.Proofs.Backend.Results
import Statbook.Proofs.Sqlite.Reading
import Statbook.Sqlite.Statement

/-!
# Statements that differ in their projection

The tokens after a projection do not depend on it, and neither does what is read of them: the
table, the joins and the condition.
-/

namespace Statbook.Sqlite

/-- Whether a token is neither a number nor the place of a value. -/
def Lexeme.isPlain : Lexeme → Bool
  | .number _ | .parameter _ => false
  | _ => true

namespace Token

variable {front : List Token}

theorem numberParameters_append (plain : ∀ t ∈ front, t.lexeme.isPlain) (largest : Nat)
    (ts : List Token) :
    numberParameters largest (front ++ ts) = front ++ numberParameters largest ts := by
  induction front with
  | nil => rfl
  | cons t front ih =>
    have first := plain t List.mem_cons_self
    have others := ih fun u member => plain u (List.mem_cons_of_mem t member)
    rw [List.cons_append, numberParameters]
    split <;> simp_all [Lexeme.isPlain]

theorem valueCount_append (plain : ∀ t ∈ front, t.lexeme.isPlain) (ts : List Token) :
    valueCount (front ++ ts) = valueCount ts := by
  unfold valueCount
  rw [List.foldl_append]
  congr 1
  generalize 0 = largest
  induction front with
  | nil => rfl
  | cons t front ih =>
    have first := plain t List.mem_cons_self
    have others := ih fun u member => plain u (List.mem_cons_of_mem t member)
    rw [List.foldl_cons]
    cases lexeme : t.lexeme <;> simp_all [Lexeme.isPlain]

theorem firstMisgrouped?_append (plain : ∀ t ∈ front, t.lexeme.isPlain) (ts : List Token) :
    firstMisgrouped? (front ++ ts) = firstMisgrouped? ts := by
  induction front with
  | nil => rfl
  | cons t front ih =>
    have first := plain t List.mem_cons_self
    have others := ih fun u member => plain u (List.mem_cons_of_mem t member)
    have grouped : misgrouped? t = none := by
      unfold misgrouped?
      cases lexeme : t.lexeme <;> simp_all [Lexeme.isPlain]
    simp only [List.cons_append, firstMisgrouped?, grouped, others]

end Token

namespace Reading

variable {lexeme : Lexeme} {written rest : List Char} {ts : List Token}

/-- What is read of a statement after its projection: the table, the joins and the condition. -/
def body : Reading (Source × List (Join ColumnName Nat) × Unresolved) := fun ts => do
  let (_, ts) ← keyword "from" ts
  let (source, ts) ← source ts
  let (joins, ts) ← joins ts.length ts
  let (condition, ts) ← optionalCondition "where" ts
  pure ((source, joins, condition), ts)

theorem statement_eq (ts : List Token) : statement ts = (do
    let (_, ts) ← keyword "select" ts
    let (projection, ts) ← projection ts
    let ((source, joins, condition), ts) ← body ts
    pure (⟨projection, source, joins, condition⟩, ts)) := by
  simp only [statement, body, bind_assoc, pure_bind]

/-- The token of a keyword in capital letters. -/
def word (text : String) (rest : List Char) : Token :=
  .before (.word text) text.toList rest

theorem keyword_select (rest : List Char) (ts : List Token) :
    keyword "select" (word "SELECT" rest :: ts) = .ok ((), ts) := by
  have spelled : "SELECT".toLower = "select" := by decide +kernel
  simp [keyword, afterWord?, word?, word, Token.before, spelled]

/-- The token of a name between double quotes. -/
def quoted (name : String) (rest : List Char) : Token :=
  .before (.name name true) (Sql.quoteIdent name).toList rest

@[simp] theorem word?_quoted (name : String) (rest : List Char) : word? (quoted name rest) = none := rfl

@[simp] theorem name?_quoted (text : String) (rest : List Char) :
    name? (quoted text rest) = some text := rfl

theorem operand_column {table column : String} {rest rest' : List Char} {dot t : Token}
    (isDot : dot.lexeme = .mark .dot) (ends : t.lexeme ≠ .mark .dot) (fuel : Nat) :
    operand (fuel + 1) (quoted table rest :: dot :: quoted column rest' :: t :: ts) =
      .ok (.column ⟨[table, column], none, (quoted table rest).bytesOnward⟩, t :: ts) := by
  have lexeme : (quoted table rest).lexeme = .name table true := rfl
  have parts : columnName (quoted table rest :: dot :: quoted column rest' :: t :: ts) =
      .ok (⟨[table, column], none, (quoted table rest).bytesOnward⟩, t :: ts) := by
    simp [columnName, name, bind, Except.bind, pure, Except.pure, dottedNames, afterMark?,
      isDot, ends]
  simp [operand, lexeme, atom, isWordOf, parts, Except.map]

theorem tier_closing {t : Token} (closes : t.lexeme = .mark .closing) : tier t = 6 := by
  simp [tier, closes, orderTest?, equalityTest?, isWordOf, word?]

/-- A column in front of a closing parenthesis is an expression. -/
theorem expression_column {table column : String} {rest rest' : List Char} {dot t : Token}
    (isDot : dot.lexeme = .mark .dot) (closes : t.lexeme = .mark .closing) :
    expression (quoted table rest :: dot :: quoted column rest' :: t :: ts) =
      .ok (.column ⟨[table, column], none, (quoted table rest).bytesOnward⟩, t :: ts) := by
  have ends : t.lexeme ≠ .mark .dot := by simp [closes]
  refine disjunction_of_operand (operand_column isDot ends _) rfl (stops_cons.mpr ?_)
  simp [tier_closing closes]

theorem mark_before (m : Mark) (written rest : List Char) (ts : List Token) :
    mark m (.before (.mark m) written rest :: ts) = .ok ((), ts) := by
  simp [mark, afterMark?, Token.before]

/-- In front of a blank, a text is read as a projection that is so, token by token, whatever
follows. -/
def Projects (text : List Char) (isSo : Projection ColumnName Nat → Prop) : Prop :=
  ∀ rest, ∃ front p, isSo p ∧ (∀ t ∈ front, t.lexeme.isPlain) ∧
    Token.lex ("SELECT ".toList ++ (text ++ ' ' :: rest)) =
      word "SELECT" (' ' :: (text ++ ' ' :: rest)) :: (front ++ Token.lex (' ' :: rest)) ∧
    ∀ ts, projection (front ++ ts) = .ok (p, ts)

theorem lex_select {c : Char} (token : isSpace c = false) (cs : List Char) :
    Token.lex ("SELECT ".toList ++ c :: cs) =
      word "SELECT" (' ' :: c :: cs) :: Token.lex (c :: cs) := by
  have ends : ∀ d ∈ (' ' :: c :: cs).head?, ¬Lexeme.continuesName d := by
    intro d first
    cases first
    decide
  have select := @Token.lex_word 'S' (' ' :: c :: cs) "ELECT".toList
    (by decide) (by decide) (by decide) (by decide) (List.all_eq_true.mp (by decide)) ends
  rw [Token.lex_blank_cons token] at select
  exact select

/-- All columns of a table. -/
theorem projects_columnsOf (table : String) :
    Projects ((Sql.quoteIdent table).toList ++ ['.', '*']) (· = .columnsOf table) := by
  intro rest
  let afterDot := '*' :: ' ' :: rest
  have digit : ∀ c ∈ afterDot.head?, Decimal.isDigit c = false := by
    intro c first
    cases first
    rfl
  have text : Token.lex ((Sql.quoteIdent table).toList ++ '.' :: afterDot) =
      quoted table ('.' :: afterDot) :: .before (.mark .dot) ['.'] afterDot ::
        .before (.mark .star) ['*'] (' ' :: rest) :: Token.lex (' ' :: rest) := by
    rw [← Token.lex_mark (' ' :: rest) (by simp)]
    refine (Token.lex_quoteIdent table (by simp)).trans (congrArg _ ?_)
    exact Token.lex_dot digit
  have whole : (Sql.quoteIdent table).toList ++ ['.', '*'] ++ ' ' :: rest =
      (Sql.quoteIdent table).toList ++ '.' :: afterDot := by
    simp [afterDot]
  refine ⟨[quoted table ('.' :: afterDot), .before (.mark .dot) ['.'] afterDot,
    .before (.mark .star) ['*'] (' ' :: rest)], .columnsOf table, rfl, ?_, ?_, ?_⟩
  · simp [quoted, Token.before, Lexeme.isPlain]
  · obtain ⟨cs, start⟩ : ∃ cs, (Sql.quoteIdent table).toList = '"' :: cs := by
      simp [Sql.quoteIdent, Sql.enclose]
    have select := lex_select (c := '"') (by decide) (cs ++ '.' :: afterDot)
    rw [← List.cons_append, ← start] at select
    rw [whole, select, text]
    rfl
  · intro ts
    rfl

/-- The name of an aggregate in front of a parenthesis. -/
theorem lex_function (operation : Operation) (cs : List Char) :
    Token.lex ("SELECT ".toList ++ (operation.function.toList ++ '(' :: cs)) =
      word "SELECT" (' ' :: (operation.function.toList ++ '(' :: cs)) ::
        word operation.function ('(' :: cs) :: .before (.mark .opening) ['('] cs :: Token.lex cs := by
  have ends : ∀ d ∈ ('(' :: cs).head?, ¬Lexeme.continuesName d := by
    intro d first
    cases first
    decide
  rw [← Token.lex_mark cs (by simp)]
  cases operation
  all_goals
    refine (lex_select (by decide) _).trans (congrArg _ ?_)
    exact @Token.lex_word _ ('(' :: cs) _ (by decide) (by decide) (by decide) (by decide)
      (List.all_eq_true.mp (by decide)) ends

/-- The name of an aggregate is no reserved word. -/
theorem name_function (operation : Operation) (rest : List Char) (ts : List Token) :
    name (word operation.function rest :: ts) = .ok (operation.function, ts) := by
  have free : reservedWords.contains operation.function.toLower = false := by
    cases operation <;> decide +kernel
  have found : name? (word operation.function rest) = some operation.function := by
    show (if reservedWords.contains operation.function.toLower then none else _) = _
    rw [free]
    rfl
  simp only [name, found]

theorem aggregate?_function (operation : Operation) :
    aggregate? operation.function = some operation := by
  cases operation <;> decide

/-- An aggregate over whole rows. -/
theorem projects_overRows (operation : Operation) :
    Projects (operation.function.toList ++ ['(', '*', ')'])
      (fun p => ∃ place, p = .overRows operation place) := by
  intro rest
  let afterStar := ')' :: ' ' :: rest
  have inside : Token.lex ('*' :: afterStar) = .before (.mark .star) ['*'] afterStar ::
      .before (.mark .closing) [')'] (' ' :: rest) :: Token.lex (' ' :: rest) := by
    rw [← Token.lex_mark (' ' :: rest) (by simp)]
    exact Token.lex_mark _ (by simp)
  refine ⟨[word operation.function ('(' :: '*' :: afterStar),
    .before (.mark .opening) ['('] ('*' :: afterStar), .before (.mark .star) ['*'] afterStar,
    .before (.mark .closing) [')'] (' ' :: rest)], .overRows operation
      (word operation.function ('(' :: '*' :: afterStar)).bytesOnward, ⟨_, rfl⟩, ?_, ?_, ?_⟩
  · simp [word, Token.before, Lexeme.isPlain]
  · have whole : operation.function.toList ++ ['(', '*', ')'] ++ ' ' :: rest =
        operation.function.toList ++ '(' :: '*' :: afterStar := by
      simp [afterStar]
    rw [whole, lex_function, inside]
    rfl
  · intro ts
    simp only [List.cons_append, projection, name_function, bind, Except.bind, aggregate?_function,
      mark_before]
    rfl

/-- An aggregate over a column of a table. -/
theorem projects_aggregate (operation : Operation) (table column : String) :
    Projects (operation.function.toList ++
        ('(' :: ((Sql.quoteIdent table).toList ++ '.' :: ((Sql.quoteIdent column).toList ++ [')']))))
      (fun p => ∃ place, p = .aggregate operation (.column ⟨[table, column], none, place⟩)) := by
  intro rest
  let afterColumn := ')' :: ' ' :: rest
  let afterDot := (Sql.quoteIdent column).toList ++ afterColumn
  let afterTable := '.' :: afterDot
  let afterOpening := (Sql.quoteIdent table).toList ++ afterTable
  have digit : ∀ c ∈ afterDot.head?, Decimal.isDigit c = false := by
    intro c first
    obtain rfl : '"' = c := by simpa [afterDot, Sql.quoteIdent, Sql.enclose] using first
    decide
  have inside : Token.lex afterOpening = quoted table afterTable ::
      .before (.mark .dot) ['.'] afterDot :: quoted column afterColumn ::
        .before (.mark .closing) [')'] (' ' :: rest) :: Token.lex (' ' :: rest) := by
    rw [← Token.lex_mark (' ' :: rest) (by simp)]
    refine (Token.lex_quoteIdent table (by simp [afterTable])).trans (congrArg _ ?_)
    refine (Token.lex_dot digit).trans (congrArg _ ?_)
    exact Token.lex_quoteIdent column (by simp [afterColumn])
  refine ⟨[word operation.function ('(' :: afterOpening), .before (.mark .opening) ['('] afterOpening,
    quoted table afterTable, .before (.mark .dot) ['.'] afterDot, quoted column afterColumn,
    .before (.mark .closing) [')'] (' ' :: rest)],
    .aggregate operation (.column ⟨[table, column], none, (quoted table afterTable).bytesOnward⟩),
    ⟨_, rfl⟩, ?_, ?_, ?_⟩
  · simp [word, quoted, Token.before, Lexeme.isPlain]
  · have whole : operation.function.toList ++ ('(' :: ((Sql.quoteIdent table).toList ++
        '.' :: ((Sql.quoteIdent column).toList ++ [')']))) ++ ' ' :: rest =
        operation.function.toList ++ '(' :: afterOpening := by
      simp [afterOpening, afterTable, afterDot, afterColumn]
    rw [whole, lex_function, inside]
    rfl
  · intro ts
    have argument := @expression_column ts table column afterTable afterColumn
      (.before (.mark .dot) ['.'] afterDot) (.before (.mark .closing) [')'] (' ' :: rest)) rfl rfl
    simp only [List.cons_append, List.nil_append, projection, name_function, bind, Except.bind,
      aggregate?_function, mark_before, argument]
    rfl

/-- The table of a statement, after the blank that follows the projection. -/
theorem lex_from (table : String) {rest : List Char} (ends : ∀ c ∈ rest.head?, c = ' ') :
    Token.lex (' ' :: ("FROM ".toList ++ ((Sql.quoteIdent table).toList ++ rest))) =
      word "FROM" (' ' :: ((Sql.quoteIdent table).toList ++ rest)) :: quoted table rest ::
        Token.lex rest := by
  have alone : rest.head? ≠ some '"' := by
    intro first
    have same := ends '"' first
    exact absurd same (by decide)
  obtain ⟨cs, start⟩ : ∃ cs, (Sql.quoteIdent table).toList ++ rest = '"' :: cs := by
    simp [Sql.quoteIdent, Sql.enclose]
  have word_ := @Token.lex_word 'F' (' ' :: '"' :: cs) "ROM".toList
    (by decide) (by decide) (by decide) (by decide) (List.all_eq_true.mp (by decide)) (by
      intro d first
      cases first
      decide)
  have name := Token.lex_quoteIdent table alone
  rw [Token.lex_blank_cons (by decide), ← start, name] at word_
  refine Eq.trans ?_ word_
  rw [start]
  exact Token.lex_blank_cons (by decide) _

theorem keyword_from (rest : List Char) (ts : List Token) :
    keyword "from" (word "FROM" rest :: ts) = .ok ((), ts) := by
  have spelled : "FROM".toLower = "from" := by decide +kernel
  simp [keyword, afterWord?, word?, word, Token.before, spelled]

/-- The table of a statement is the one that is named, whatever it is called. -/
theorem table_of_source {table : String} {rest : List Char} {found : Source}
    (read : source (quoted table rest :: ts) = .ok (found, us)) : found.table = table := by
  have first : name (quoted table rest :: ts) = .ok (table, ts) := by
    simp [name]
  unfold source at read
  simp only [first, bind, Except.bind] at read
  split at read
  · rename_i after _
    cases label : name after with
    | error token => simp [label] at read
    | ok result =>
      simp only [label] at read
      cases read
      rfl
  · split at read <;> cases read <;> rfl

theorem table_of_body {table : String} {rest rest' : List Char} {found : Source}
    {joined : List (Join ColumnName Nat)} {condition : Unresolved}
    (read : body (word "FROM" rest :: quoted table rest' :: ts) = .ok ((found, joined, condition), us)) :
    found.table = table := by
  unfold body at read
  rw [keyword_from] at read
  obtain ⟨_, isKeyword, read⟩ := bind_eq_ok_iff.mp read
  cases isKeyword
  obtain ⟨⟨found', _⟩, isSource, read⟩ := bind_eq_ok_iff.mp read
  obtain ⟨_, _, read⟩ := bind_eq_ok_iff.mp read
  obtain ⟨_, _, read⟩ := bind_eq_ok_iff.mp read
  cases read
  exact table_of_source isSource

end Reading

namespace Statement

variable {ts us : List Token} {rest : List Char} {p : Projection ColumnName Nat}
  {s : UnresolvedStatement}

/-- A statement is its projection and what is read after that. -/
theorem ofTokens_eq_ok_iff (read : Reading.projection ts = .ok (p, us)) :
    ofTokens (Reading.word "SELECT" rest :: ts) = .ok s ↔
      Reading.body us = .ok ((s.source, s.joins, s.condition), []) ∧ s.projection = p := by
  have steps : Reading.statement (Reading.word "SELECT" rest :: ts) =
      (Reading.body us).map fun ((source, joins, condition), ts) =>
        (⟨p, source, joins, condition⟩, ts) := by
    rw [Reading.statement_eq, Reading.keyword_select]
    simp only [bind, Except.bind, read]
    cases Reading.body us <;> rfl
  rw [ofTokens, steps]
  cases body : Reading.body us with
  | error token => simp [Except.map]
  | ok result =>
    obtain ⟨⟨source, joins, condition⟩, left⟩ := result
    obtain ⟨projection', source', joins', condition'⟩ := s
    cases left <;> simp [Except.map]
    grind

end Statement

end Statbook.Sqlite
