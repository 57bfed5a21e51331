import Statbook.Proofs.Backend.Fallible
import Statbook.Proofs.Query.Rendering
import Statbook.Proofs.Sqlite.Prepared
import Statbook.Sqlite.Connection

/-!
# The statements of a query

The statements of a query differ in their projection alone, and what follows the projection is
read in the same way after any of them. The rows of a query are those that its statement selects.
-/

namespace Statbook.Sqlite

/-- A statement in text: its projection, and what follows the blank after that. -/
def selectText (projection : String) (rest : List Char) : String :=
  String.ofList ("SELECT ".toList ++ (projection.toList ++ ' ' :: rest))

/-- The tokens of a statement from the blank after its projection on. -/
def onwardTokens (rest : List Char) : List Token :=
  Token.numberParameters 0 (Token.lex (' ' :: beforeNul rest))

theorem beforeNul_append {cs : List Char} (whole : nul ∉ cs) (ds : List Char) :
    beforeNul (cs ++ ds) = cs ++ beforeNul ds := by
  refine List.takeWhile_append_of_pos fun c member => decide_eq_true ?_
  rintro rfl
  exact whole member

theorem nul_notMem_quoteIdent {name : String} (whole : nul ∉ name.toList) :
    nul ∉ (Sql.quoteIdent name).toList := by
  have quote : ('"' : Char) ≠ nul := by decide
  simp only [Sql.quoteIdent, Sql.enclose, String.toList_ofList, Text.replaceChar, List.mem_cons,
    List.mem_append, List.mem_flatMap]
  rintro (same | ⟨c, member, same⟩ | same)
  · exact quote same.symm
  · split at same
    · simp [quote.symm] at same
    · exact whole (List.mem_singleton.mp same ▸ member)
  · simp [quote.symm] at same

namespace Database

variable {db : Database} {values : List Cell} {s : Statement Place Cell} {rest : List Char}
  {projection projection' : String} {isSo isSo' : Projection ColumnName Nat → Prop}

theorem tokensOf_selectText (whole : nul ∉ projection.toList)
    (projects : Reading.Projects projection.toList isSo) (rest : List Char) :
    ∃ front p after, isSo p ∧ (∀ t ∈ front, t.lexeme.isPlain) ∧
      tokensOf (selectText projection rest) =
        Reading.word "SELECT" after :: front ++ onwardTokens rest ∧
      ∀ ts, Reading.projection (front ++ ts) = .ok (p, ts) := by
  obtain ⟨front, p, so, plain, lexed, read⟩ := projects (beforeNul rest)
  refine ⟨front, p, ' ' :: (projection.toList ++ ' ' :: beforeNul rest), so, plain, ?_, read⟩
  have blank : beforeNul (' ' :: rest) = ' ' :: beforeNul rest :=
    @beforeNul_append [' '] (by decide) rest
  have cut : beforeNul (selectText projection rest).toList =
      "SELECT ".toList ++ (projection.toList ++ ' ' :: beforeNul rest) := by
    calc beforeNul (selectText projection rest).toList
      _ = beforeNul ("SELECT ".toList ++ (projection.toList ++ ' ' :: rest)) :=
        congrArg beforeNul String.toList_ofList
      _ = "SELECT ".toList ++ beforeNul (projection.toList ++ ' ' :: rest) :=
        beforeNul_append (by decide) _
      _ = _ := by rw [beforeNul_append whole, blank]
  have all : ∀ t ∈ Reading.word "SELECT" (' ' :: (projection.toList ++ ' ' :: beforeNul rest)) :: front,
      t.lexeme.isPlain := by
    intro t member
    obtain rfl | member := List.mem_cons.mp member
    · rfl
    · exact plain t member
  show Token.numberParameters 0 (Token.lex (beforeNul _)) = _
  rw [cut, lexed, ← List.cons_append, Token.numberParameters_append all]
  rfl

/-- A statement is prepared from its projection and from what follows, one apart from the
other. -/
theorem prepare_selectText (db : Database) (values : List Cell) (reject : String → Nat → Fault)
    (whole : nul ∉ projection.toList)
    (projects : Reading.Projects projection.toList isSo) (rest : List Char) :
    ∃ p, isSo p ∧ ∀ s, db.prepare (selectText projection rest) values = .ok s ↔
      ∃ u, u.projection = p ∧
        Reading.body (onwardTokens rest) = .ok ((u.source, u.joins, u.condition), []) ∧
        Token.firstMisgrouped? (onwardTokens rest) = none ∧
        (∃ first others, Resolves db reject values u s first others) ∧
        s.refusedNumbers = [] ∧ values.length = Token.valueCount (onwardTokens rest) := by
  obtain ⟨front, p, after, so, plain, tokens, read⟩ := tokensOf_selectText whole projects rest
  refine ⟨p, so, fun s => ?_⟩
  have all : ∀ t ∈ Reading.word "SELECT" after :: front, t.lexeme.isPlain := by
    intro t member
    obtain rfl | member := List.mem_cons.mp member
    · rfl
    · exact plain t member
  rw [prepare_eq_ok_iff reject, tokens, Token.firstMisgrouped?_append all,
    Token.valueCount_append all]
  refine exists_congr fun u => ?_
  rw [List.cons_append, Statement.ofTokens_eq_ok_iff (read _), and_comm (b := u.projection = p), and_assoc]

/-- Another projection of the same rows is prepared if its own columns are found. -/
theorem prepare_other (prepared : db.prepare (selectText projection rest) values = .ok s)
    (whole : nul ∉ projection.toList) (projects : Reading.Projects projection.toList isSo)
    (whole' : nul ∉ projection'.toList) (projects' : Reading.Projects projection'.toList isSo')
    (reject : String → Nat → Fault) :
    ∃ u first others p', Resolves db reject values u s first others ∧ isSo u.projection ∧ isSo' p' ∧
      Reading.body (onwardTokens rest) = .ok ((u.source, u.joins, u.condition), []) ∧
      ∀ q, resolveProjection reject (frame first others)
          (resolveIn reject values (frame first others)) p' = .ok q →
        (∀ operation argument, q = .aggregate operation argument → argument.refusedNumbers = []) →
        db.prepare (selectText projection' rest) values = .ok { s with projection := q } := by
  obtain ⟨p, so, asked⟩ := prepare_selectText db values reject whole projects rest
  obtain ⟨p', so', asked'⟩ :=
    prepare_selectText db values reject whole' projects' rest
  obtain ⟨u, rfl, read, grouped, ⟨first, others, resolves⟩, refused, counted⟩ := (asked s).mp prepared
  refine ⟨u, first, others, p', resolves, so, so', read, fun q found none => (asked' _).mpr ?_⟩
  refine ⟨{ u with projection := p' }, rfl, read, grouped, ⟨first, others, ?_⟩, ?_, counted⟩
  · exact { resolves with projection := found }
  · simp only [Statement.refusedNumbers, List.append_eq_nil_iff] at refused ⊢
    refine ⟨⟨?_, refused.1.2⟩, refused.2⟩
    split
    · exact none _ _ rfl
    · rfl

end Database

namespace Connection

variable {c : Connection} {query : Query} {records : List Record}

/-- What follows the name of the table of a query. -/
def afterTable (query : Query) : List Char :=
  Sql.Writer.fresh.shows ((query.joins.map fun clause => .text (" " ++ clause)) ++
    (if query.constraints.isEmpty then [] else .text " WHERE " :: query.conditionPieces))

/-- What follows the projection of a query and a blank. -/
def onward (query : Query) : List Char :=
  "FROM ".toList ++ ((Sql.quoteIdent query.table).toList ++ afterTable query)

/-- The values that the constraints of a query compare with, as cells. -/
def cells (query : Query) : List Cell :=
  (query.constraints.flatMap Constraint.values).map Cell.ofSqlValue

theorem write_fresh (query : Query) (projection : String) :
    query.write projection .fresh = (selectText projection (onward query),
      .bound (query.constraints.flatMap Constraint.values)) := by
  have blank : " FROM ".toList = ' ' :: "FROM ".toList := by decide
  have shown : Sql.Writer.fresh.shows (query.select projection) =
      "SELECT ".toList ++ (projection.toList ++ ' ' :: onward query) := by
    unfold Query.select onward afterTable
    generalize "SELECT " = start
    rw [List.cons_append, Sql.Writer.shows_text, String.toList_append, String.toList_append,
      String.toList_append, blank, ← List.cons_append]
    simp only [List.append_assoc]
  have taken : Sql.Writer.fresh.after (query.select projection) =
      .bound (query.constraints.flatMap Constraint.values) := by
    rw [← query.values_select projection]
    rfl
  rw [query.writes projection, shown, taken]
  rfl

/-- A blank stands after the name of the table, if anything does. -/
theorem head?_afterTable (query : Query) : ∀ c ∈ (beforeNul (afterTable query)).head?, c = ' ' := by
  have blank (text rest : List Char) : ∀ c ∈ (beforeNul (' ' :: text ++ rest)).head?, c = ' ' := by
    intro c first
    have kept : beforeNul (' ' :: (text ++ rest)) = ' ' :: beforeNul (text ++ rest) :=
      @beforeNul_append [' '] (by decide) _
    rw [List.cons_append, kept] at first
    cases first
    rfl
  unfold afterTable
  cases query.joins with
  | nil =>
    cases query.constraints with
    | nil =>
      intro c first
      cases first
    | cons constraint constraints =>
      have introduction : " WHERE ".toList = ' ' :: "WHERE ".toList := by decide
      rw [List.map_nil, List.nil_append, if_neg (by simp), Sql.Writer.shows_text, introduction]
      exact blank _ _
  | cons clause clauses =>
    have join : (" " ++ clause).toList = ' ' :: clause.toList := by
      rw [String.toList_append]
      rfl
    rw [List.map_cons, List.cons_append, Sql.Writer.shows_text, join]
    exact blank _ _

theorem onwardTokens_onward (whole : nul ∉ query.table.toList) :
    onwardTokens (onward query) =
      Reading.word "FROM" (' ' :: ((Sql.quoteIdent query.table).toList ++ beforeNul (afterTable query))) ::
        Reading.quoted query.table (beforeNul (afterTable query)) ::
          Token.numberParameters 0 (Token.lex (beforeNul (afterTable query))) := by
  have cut : beforeNul (onward query) = "FROM ".toList ++
      ((Sql.quoteIdent query.table).toList ++ beforeNul (afterTable query)) := by
    refine (beforeNul_append (by decide) _).trans (congrArg _ ?_)
    exact beforeNul_append (nul_notMem_quoteIdent whole) _
  rw [onwardTokens, cut, Reading.lex_from _ (head?_afterTable query)]
  rfl

theorem run_apply (query : Query) (projection : String) (c : Connection) :
    (run (query.write projection) c).1 = (c.database >>= fun db =>
      db.run (selectText projection (onward query)) (cells query)).mapError Fault.error := by
  unfold run
  rw [write_fresh]
  rfl

/-- A statement is run if it can be prepared, and its projection is taken of the rows that it
selects. -/
theorem run_eq_ok_iff {projection : String} {answer : Answer} :
    (run (query.write projection) c).1 = .ok answer ↔
      ∃ db s r, c.database = .ok db ∧
        db.prepare (selectText projection (onward query)) (cells query) = .ok s ∧
        db.selected s = .ok r ∧ Database.project s.projection r = .ok answer := by
  rw [run_apply, mapError_eq_ok_iff, bind_eq_ok_iff]
  refine exists_congr fun db => ?_
  unfold Database.run
  simp only [bind_eq_ok_iff]
  constructor
  · rintro ⟨isDatabase, s, prepared, r, selected, projected⟩
    exact ⟨s, r, isDatabase, prepared, selected, projected⟩
  · rintro ⟨s, r, isDatabase, prepared, selected, projected⟩
    exact ⟨isDatabase, s, prepared, r, selected, projected⟩

/-- The record that the rows of `r` have for the columns of a table. -/
def recordIn (r : Relation) (table : String) (row : List Cell) : Record :=
  recordOf ((r.columnsOf table).map Prod.fst)
    ((r.columnsOf table).map fun (_, place) => (row[place.index]?).getD .null)

theorem beforeNul_replaceChar {quote : Char} (other : quote ≠ nul) {text : List Char}
    (cut : nul ∈ text) (rest : List Char) :
    beforeNul (Text.replaceChar quote [quote, quote] text ++ rest) =
      Text.replaceChar quote [quote, quote] (beforeNul text) := by
  induction text with
  | nil => cases cut
  | cons c text ih =>
    by_cases ends : c = nul
    · subst ends
      simp [Text.replaceChar, beforeNul, other.symm]
    · have later : nul ∈ text := (List.mem_cons.mp cut).resolve_left (Ne.symm ends)
      have onward := ih later
      have goes : beforeNul (c :: text) = c :: beforeNul text := by
        simp [beforeNul, ends]
      rw [goes]
      have step (cs : List Char) : Text.replaceChar quote [quote, quote] (c :: cs) =
          (if c = quote then [quote, quote] else [c]) ++ Text.replaceChar quote [quote, quote] cs := rfl
      rw [step, step, List.append_assoc, beforeNul_append, onward]
      split <;> simp [other.symm, Ne.symm ends]

/-- A statement that is cut in the name of its table is no statement. -/
theorem nul_notMem_of_prepared {db : Database} {table : String} {rest : List Char}
    {values : List Cell} {s : Statement Place Cell}
    (prepared : db.prepare (selectText (Sql.quoteIdent table ++ ".*") rest) values = .ok s) :
    nul ∉ table.toList := by
  intro cut
  obtain ⟨u, read, -⟩ := (Database.prepare_eq_ok_iff fun told _ => .result 1 told).mp prepared
  let inside := Text.replaceChar '"' ['"', '"'] (beforeNul table.toList)
  have text : beforeNul (selectText (Sql.quoteIdent table ++ ".*") rest).toList =
      "SELECT ".toList ++ '"' :: inside := by
    calc beforeNul (selectText (Sql.quoteIdent table ++ ".*") rest).toList
      _ = beforeNul ("SELECT ".toList ++ ((Sql.quoteIdent table ++ ".*").toList ++ ' ' :: rest)) :=
        congrArg beforeNul String.toList_ofList
      _ = "SELECT ".toList ++ beforeNul ((Sql.quoteIdent table ++ ".*").toList ++ ' ' :: rest) :=
        beforeNul_append (by decide) _
      _ = "SELECT ".toList ++ beforeNul (['"'] ++ (Text.replaceChar '"' ['"', '"'] table.toList ++
            ('"' :: ".*".toList ++ ' ' :: rest))) := by
        simp [Sql.quoteIdent, Sql.enclose, String.toList_append]
      _ = _ := by
        rw [beforeNul_append (by decide), beforeNul_replaceChar (by decide) cut]
        rfl
  have unclosed : Token.lex ('"' :: inside) = [⟨.unknown, '"' :: inside, '"' :: inside⟩] :=
    Token.lex_unclosed (beforeNul table.toList)
  have tokens : Database.tokensOf (selectText (Sql.quoteIdent table ++ ".*") rest) =
      [Reading.word "SELECT" (' ' :: '"' :: inside), ⟨.unknown, '"' :: inside, '"' :: inside⟩] := by
    show Token.numberParameters 0 (Token.lex (beforeNul _)) = _
    rw [text, Reading.lex_select (by decide), unclosed]
    rfl
  rw [tokens, Statement.ofTokens, Reading.statement_eq, Reading.keyword_select] at read
  cases read

theorem rowProjection_toList (query : Query) :
    query.rowProjection.toList = (Sql.quoteIdent query.table).toList ++ ['.', '*'] := by
  have star : ".*".toList = ['.', '*'] := by decide
  rw [Query.rowProjection, String.toList_append, star]

theorem projects_rowProjection (query : Query) :
    Reading.Projects query.rowProjection.toList (· = .columnsOf query.table) := by
  rw [rowProjection_toList]
  exact Reading.projects_columnsOf query.table

theorem nul_notMem_rowProjection (whole : nul ∉ query.table.toList) :
    nul ∉ query.rowProjection.toList := by
  have marks : nul ∉ ['.', '*'] := by decide
  rw [rowProjection_toList, List.mem_append]
  exact not_or_intro (nul_notMem_quoteIdent whole) marks

/-- The columns of the tables of a name are given only if they are told apart. -/
theorem unrepeated_of_resolves {db : Database} {reject : String → Nat → Fault}
    {values : List Cell} {u : UnresolvedStatement} {s : Statement Place Cell} {first : Relation}
    {others : List Relation} {label : String}
    (resolves : Database.Resolves db reject values u s first others)
    (isColumns : u.projection = .columnsOf label) :
    s.projection = .columnsOf label ∧ (Database.frame first others).repeated? label = none := by
  have found := resolves.projection
  rw [isColumns, Database.resolveProjection] at found
  split at found
  · split at found
    · rename_i unrepeated
      exact ⟨(Except.ok.inj found).symm, unrepeated⟩
    · cases found
  · cases found

/-- A statement for the rows of a query gives the columns of its table. -/
theorem projection_of_prepared {db : Database} {s : Statement Place Cell}
    (prepared : db.prepare (selectText query.rowProjection (onward query)) (cells query) = .ok s) :
    s.projection = .columnsOf query.table := by
  have whole := nul_notMem_rowProjection (nul_notMem_of_prepared prepared)
  obtain ⟨u, first, others, -, resolves, so, -⟩ := Database.prepare_other prepared
    whole (projects_rowProjection query) whole (projects_rowProjection query)
    fun told _ => .result 1 told
  exact (unrepeated_of_resolves resolves so).1

/-- The rows of a query are those that its statement selects, each as a record. -/
theorem fetch_eq_ok_iff : (fetch query c).1 = .ok records ↔
    ∃ db s r, c.database = .ok db ∧
      db.prepare (selectText query.rowProjection (onward query)) (cells query) = .ok s ∧
      db.selected s = .ok r ∧ records = r.rows.map (recordIn r query.table) := by
  unfold fetch
  rw [Fallible.bind_pure_apply, map_eq_ok_iff]
  simp only [Query.writeRows, run_eq_ok_iff]
  constructor
  · rintro ⟨answer, ⟨db, s, r, isDatabase, prepared, selected, answered⟩, rfl⟩
    refine ⟨db, s, r, isDatabase, prepared, selected, ?_⟩
    rw [projection_of_prepared prepared] at answered
    cases answered
    simp [recordIn]
  · rintro ⟨db, s, r, isDatabase, prepared, selected, rfl⟩
    refine ⟨⟨(r.columnsOf query.table).map Prod.fst, r.rows.map fun row =>
      (r.columnsOf query.table).map fun (_, place) => (row[place.index]?).getD .null⟩,
      ⟨db, s, r, isDatabase, prepared, selected, ?_⟩, ?_⟩
    · rw [projection_of_prepared prepared]
      rfl
    · simp [recordIn]

/-- The statement for the rows of a query, prepared. -/
def rowStatement (db : Database) (query : Query) : Except Fault (Statement Place Cell) :=
  db.prepare (query.writeRows .fresh).1 ((query.writeRows .fresh).2.values.map Cell.ofSqlValue)

theorem rowStatement_eq (db : Database) (query : Query) : rowStatement db query =
    db.prepare (selectText query.rowProjection (onward query)) (cells query) := by
  unfold rowStatement Query.writeRows
  rw [write_fresh]
  rfl

end Connection

end Statbook.Sqlite
