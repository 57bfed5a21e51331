import Statbook.Proofs.Sqlite.Conjunction

/-!
# The tables of a query

The table of a query and its joins are read in the same way whatever the constraints are: up to the
condition on the rows they are the same tokens, and that starts with a word that ends them.
-/

namespace Statbook.Query

/-- The query with these constraints in the place of its own. -/
def only (query : Query) (constraints : List Constraint) : Query :=
  { query with constraints := constraints }

/-- The joins of a query, each after a blank. -/
def joinChars (query : Query) : List Char :=
  query.joins.flatMap fun clause => ' ' :: clause.toList

end Statbook.Query

namespace Statbook.Sqlite

open Token Reading Connection

/-- The tokens outside of parentheses, of which so many are open already. -/
def outermost : (depth : Nat) → List Token → List Token
  | _, [] => []
  | depth, t :: ts =>
    if t.lexeme = .mark .opening then outermost (depth + 1) ts
    else if t.lexeme = .mark .closing then outermost (depth - 1) ts
    else if depth = 0 then t :: outermost 0 ts
    else outermost depth ts

/-- The words after which another selection follows. -/
def compoundWords : List String :=
  ["union", "intersect", "except"]

/-- Whether the joins of a query leave alone what follows them. Together they do not end inside a
comment or between quotes, and no NUL ends the statement in them. They ask for no values, neither
with a question mark nor with a name behind a colon, an at sign or a dollar sign, which are no tokens
here. And what follows belongs to the same selection: no semicolon ends that before, and no word
starts another one, whose rows the condition would be on. -/
structure JoinsStand (query : Query) : Prop where
  closed : endsOpen query.joinChars = false
  whole : nul ∉ query.joinChars
  noPlace : ∀ t ∈ lex query.joinChars, t.isPlace = false
  known : ∀ t ∈ lex query.joinChars, t.lexeme ≠ .unknown
  single : ∀ t ∈ outermost 0 (lex query.joinChars),
    t.lexeme ≠ .mark .semicolon ∧ isWordOf compoundWords t = false

example : ¬JoinsStand { Query.all "items" with joins := ["EXCEPT SELECT * FROM items"] } :=
  fun stand => absurd stand.single (by decide +kernel)

variable {query : Query} {ts us last last' : List Token} {values : List Cell}

theorem afterTable_eq (query : Query) : afterTable query = query.joinChars ++
    (if query.constraints.isEmpty then []
      else " WHERE ".toList ++ conditionChars query.table query.constraints) := by
  have blank : " ".toList = [' '] := by decide
  have clauses (clauses : List String) (pieces : List Sql.Piece) :
      Sql.Writer.fresh.shows ((clauses.map fun clause => .text (" " ++ clause)) ++ pieces) =
        (clauses.flatMap fun clause => ' ' :: clause.toList) ++ Sql.Writer.fresh.shows pieces := by
    induction clauses with
    | nil => rfl
    | cons clause clauses ih =>
      rw [List.map_cons, List.cons_append, Sql.Writer.shows_text, ih, String.toList_append, blank,
        List.flatMap_cons]
      simp
  rw [afterTable, clauses, Query.joinChars]
  split
  · rfl
  · rw [Sql.Writer.shows_text]
    rfl

/-- The tokens of the condition of a query on its rows. -/
inductive WhereTokens (query : Query) : List Token → Prop
  | nothing : query.constraints = [] → WhereTokens query []
  | condition {t : Token} (largest : Nat) : query.constraints ≠ [] → t.lexeme = .word "WHERE" →
    WhereTokens query (t :: numberParameters largest
      (lex (beforeNul (conditionChars query.table query.constraints))))

theorem blocks_where {t : Token} (isWhere : t.lexeme = .word "WHERE") : Blocks t := by
  have spelled : "WHERE".toLower = "where" := by decide +kernel
  exact .inr (by simp [word?, isWhere, spelled])

theorem WhereTokens.blocked (isWhere : WhereTokens query last) : ∀ t ∈ last.head?, Blocks t := by
  intro t first
  cases isWhere with
  | nothing => cases first
  | condition _ _ isWhere =>
    cases first
    exact blocks_where isWhere

theorem WhereTokens.ne_nil (isWhere : WhereTokens query last) (constrained : query.constraints ≠ []) :
    last ≠ [] := by
  cases isWhere with
  | nothing none => exact absurd none constrained
  | condition => exact List.cons_ne_nil _ _

theorem same_refl (ts : List Token) : List.Forall₂ Same ts ts :=
  List.forall₂_same.mpr fun _ _ => ⟨rfl, rfl⟩

theorem same_symm (same : List.Forall₂ Same ts us) : List.Forall₂ Same us ts :=
  same.flip.imp fun _ _ same => ⟨same.lexeme.symm, same.written.symm⟩

theorem afterTable_tokens (stand : JoinsStand query) (stands : ∀ k ∈ query.constraints, StandsAlone k) :
    ∃ front last, List.Forall₂ Same (lex query.joinChars) front ∧ WhereTokens query last ∧
      numberParameters 0 (lex (beforeNul (afterTable query))) = front ++ last := by
  rw [afterTable_eq, beforeNul_append stand.whole]
  cases constraints : query.constraints with
  | nil =>
    refine ⟨lex query.joinChars, [], same_refl _, .nothing constraints, ?_⟩
    simp only [List.isEmpty_nil, if_true, show beforeNul [] = [] from rfl, List.append_nil]
    exact numberParameters_eq (fun t member => parameter_ne (stand.noPlace t member) none) 0
  | cons k ks =>
    have chars : conditionChars query.table (k :: ks) = _ := boundChars_conditions k ks 0
    obtain ⟨t, isWhere, tokens⟩ := @lex_where query.table k (stands k (by simp [constraints])) 1
      (laterChars query.table (0 + k.values.length) ks)
    obtain ⟨front, same, lexed⟩ := lex_append_of_closed stand.closed (.inl rfl)
      (beforeNul ("WHERE ".toList ++ conditionChars query.table (k :: ks)))
    have blank : " WHERE ".toList = ' ' :: "WHERE ".toList := by decide
    have kept : beforeNul (" WHERE ".toList ++ conditionChars query.table (k :: ks)) =
        ' ' :: beforeNul ("WHERE ".toList ++ conditionChars query.table (k :: ks)) := by
      rw [blank, ← List.singleton_append, List.append_assoc, beforeNul_append (by decide)]
      rfl
    have noPlace := noPlace_of_same same stand.noPlace
    have numbered : ∀ u ∈ front ++ [t], u.lexeme ≠ .parameter none := by
      intro u member
      obtain inFront | isLast := List.mem_append.mp member
      · exact parameter_ne (noPlace u inFront) none
      · simp [List.mem_singleton.mp isLast, isWhere]
    obtain ⟨largest, after⟩ := numberParameters_numbered numbered 0
    rw [← chars] at tokens
    refine ⟨front, _, same, .condition largest (by simp [constraints]) isWhere, ?_⟩
    rw [if_neg (by simp), kept, lexed, ← kept, tokens, ← List.singleton_append, ← List.append_assoc,
      after, constraints, List.append_assoc, List.singleton_append]

/-- The tokens of the table of a query and its joins. -/
def groundTokens (query : Query) : List Token :=
  quoted query.table [] :: lex query.joinChars

/-- The tokens of a query: its table and its joins, and then its condition. -/
theorem onwardTokens_eq (whole : nul ∉ query.table.toList) (stand : JoinsStand query)
    (stands : ∀ k ∈ query.constraints, StandsAlone k) :
    ∃ rest front last, List.Forall₂ Same (groundTokens query) front ∧ WhereTokens query last ∧
      onwardTokens (onward query) = word "FROM" rest :: (front ++ last) := by
  obtain ⟨front, last, same, isWhere, tokens⟩ := afterTable_tokens stand stands
  refine ⟨' ' :: ((Sql.quoteIdent query.table).toList ++ beforeNul (afterTable query)),
    quoted query.table (beforeNul (afterTable query)) :: front, last, .cons ⟨rfl, rfl⟩ same, isWhere, ?_⟩
  rw [onwardTokens_onward whole, tokens]
  rfl

theorem keyword_from (rest : List Char) (ts : List Token) :
    keyword "from" (word "FROM" rest :: ts) = .ok ((), ts) := by
  have spelled : "FROM".toLower = "from" := by decide +kernel
  simp [keyword, afterWord?, word?, word, Token.before, spelled]

theorem groundTokens_noPlace (stand : JoinsStand query) :
    ∀ t ∈ groundTokens query, t.isPlace = false := by
  intro t member
  obtain rfl | inJoins := List.mem_cons.mp member
  · rfl
  · exact stand.noPlace t inJoins

/-- What is read of the table of a query and its joins alone. -/
def Grounded (query : Query) (source : Source) (joins : List (Join ColumnName Nat)) : Prop :=
  tables (groundTokens query) = .ok ((source, joins), [])

variable {source : Source} {joins : List (Join ColumnName Nat)} {condition : Unresolved}
  {front : List Token} {rest : List Char}

/-- A query whose statement is read has its table and its joins in front of its condition. -/
theorem grounded_of_body (stand : JoinsStand query) (same : List.Forall₂ Same (groundTokens query) front)
    (isWhere : WhereTokens query last) (constrained : query.constraints ≠ []) (values : List Cell)
    (read : body (word "FROM" rest :: (front ++ last)) = .ok ((source, joins, condition), [])) :
    ∃ joins', Grounded query source joins' ∧
      List.Forall₂ (AlikeJoin values []) joins joins' ∧
      optionalCondition "where" last = .ok (condition, []) := by
  have ends : Ends last [] := ⟨isWhere.blocked, fun t first => (by cases first)⟩
  have noPlace := noPlace_of_same same (groundTokens_noPlace stand)
  have along := @alongside_of_same front (groundTokens query) values [] last [] noPlace (same_symm same)
  rw [List.append_nil] at along
  rw [body_eq] at read
  obtain ⟨⟨⟨⟩, ts⟩, isFrom, read⟩ := bind_eq_ok_iff.mp read
  rw [keyword_from] at isFrom
  cases isFrom
  obtain ⟨⟨⟨s, js⟩, us⟩, areTables, read⟩ := bind_eq_ok_iff.mp read
  obtain ⟨⟨c, vs⟩, isCondition, same'⟩ := bind_eq_ok_iff.mp read
  cases same'
  obtain ⟨js', us', areTables', alike, along'⟩ := tables_alongside ends along areTables
  cases along' with
  | ended => exact ⟨js', areTables', alike, isCondition⟩
  | @cons t t' us us' like along' =>
    unfold optionalCondition afterWord? at isCondition
    by_cases word : word? t = some "where"
    · simp only [if_pos word] at isCondition
      obtain ⟨-, -, us'', -, -, left⟩ := expression_alongside ends along' isCondition
      exact absurd (List.eq_nil_of_length_eq_zero (Nat.le_zero.mp left.length_le))
        (isWhere.ne_nil constrained)
    · simp only [if_neg word] at isCondition
      cases isCondition

/-- The table and the joins are read in front of any condition. -/
theorem body_of_grounded (stand : JoinsStand query) (same : List.Forall₂ Same (groundTokens query) front)
    (isWhere : WhereTokens query last) (values : List Cell) (grounded : Grounded query source joins)
    (isCondition : optionalCondition "where" last = .ok (condition, [])) :
    ∃ joins', List.Forall₂ (AlikeJoin [] values) joins joins' ∧
      body (word "FROM" rest :: (front ++ last)) = .ok ((source, joins', condition), []) := by
  have ends : Ends [] last :=
    ⟨fun t first => (by cases first), fun t first => .inl (isWhere.blocked t first)⟩
  have along := @alongside_of_same (groundTokens query) front [] values [] last
    (groundTokens_noPlace stand) same
  rw [List.append_nil] at along
  obtain ⟨js', us', areTables, alike, along'⟩ := tables_alongside ends along grounded
  cases along'
  refine ⟨js', alike, ?_⟩
  rw [body_eq]
  refine bind_eq_ok_iff.mpr ⟨_, keyword_from _ _, bind_eq_ok_iff.mpr ⟨_, areTables, ?_⟩⟩
  exact bind_eq_ok_iff.mpr ⟨_, isCondition, rfl⟩

end Statbook.Sqlite
