import Statbook.Proofs.Backend.Results
import Statbook.Proofs.Sqlite.Statement
import Statbook.Sqlite.Selection

/-!
# Statements that are prepared

What it takes for a statement to be prepared: it is read, its tables and columns are found, no
number in it is refused and it is given as many values as it asks for.
-/

namespace Statbook.Sqlite

variable {reject reject' : String → Nat → Fault}

namespace Expr

variable {ε : Type} {column column' : ColumnName → Except ε Resolved} {bound : Nat → Cell}

/-- Columns that are found in another way are found in expressions as well. -/
theorem resolve_mono (found : ∀ name x, column name = .ok x → column' name = .ok x)
    {e : Unresolved} {e' : Resolved} (resolved : e.resolve column bound = .ok e') :
    e.resolve column' bound = .ok e' := by
  induction e generalizing e' with
  | literal | number | parameter => exact resolved
  | column name => exact found name e' resolved
  | bare e ih | minus e ih | isNull e ih | not e ih =>
    obtain ⟨x, operand, same⟩ := bind_eq_ok_iff.mp resolved
    exact bind_eq_ok_iff.mpr ⟨x, ih operand, same⟩
  | compare _ a b iha ihb | and a b iha ihb | or a b iha ihb =>
    obtain ⟨x, first, others⟩ := bind_eq_ok_iff.mp resolved
    obtain ⟨y, second, same⟩ := bind_eq_ok_iff.mp others
    exact bind_eq_ok_iff.mpr ⟨x, iha first, bind_eq_ok_iff.mpr ⟨y, ihb second, same⟩⟩

end Expr

namespace Relation

/-- How a fault is told does not matter where there is none. -/
theorem resolveColumn_of_ok {r : Relation} {name : ColumnName} {x : Resolved}
    (found : r.resolveColumn reject name = .ok x) : r.resolveColumn reject' name = .ok x := by
  revert found
  unfold resolveColumn
  dsimp only
  split
  · exact id
  · split
    · exact id
    · intro found
      cases found
  · intro found
    cases found

end Relation

namespace Database

variable {db : Database} {tokens : List Token} {values : List Cell} {u : UnresolvedStatement}
  {s : Statement Place Cell} {first : Relation} {others : List Relation} {sql : String}

/-- The headings of the rows of all tables together, without rows. -/
def frame (first : Relation) (others : List Relation) : Relation :=
  ⟨first.headings ++ others.flatMap Relation.headings, []⟩

/-- An expression over some tables with its columns found and values put in. -/
def resolveIn (reject : String → Nat → Fault) (values : List Cell) (r : Relation) :
    Unresolved → Except Fault Resolved :=
  Expr.resolve (r.resolveColumn reject) fun number => (values[number - 1]?).getD .null

theorem resolveIn_of_ok {r : Relation} {e : Unresolved} {x : Resolved}
    (resolved : resolveIn reject values r e = .ok x) : resolveIn reject' values r e = .ok x :=
  Expr.resolve_mono (fun _ _ => Relation.resolveColumn_of_ok) resolved

/-- A column of a table is found where its name stands for one place. -/
theorem resolveIn_column {r : Relation} {table column : String} {place : Place}
    (found : r.placesOf (some table) column = [place]) (bytesOnward : Nat) :
    resolveIn reject values r (.column ⟨[table, column], none, bytesOnward⟩) =
      .ok (.column place) := by
  unfold resolveIn Expr.resolve Relation.resolveColumn
  simp only [found]

/-- A join with its columns found in some tables and its values put in. -/
def resolveJoin (reject : String → Nat → Fault) (values : List Cell) (r : Relation)
    (join : Join ColumnName Nat) : Except Fault (Join Place Cell) := do
  pure ⟨join.kind, join.source, ← resolveIn reject values r join.condition⟩

/-- A statement and the same one with its columns found in some tables and its values put in. -/
structure Resolves (db : Database) (reject : String → Nat → Fault) (values : List Cell)
    (u : UnresolvedStatement) (s : Statement Place Cell) (first : Relation)
    (others : List Relation) : Prop where
  source : s.source = u.source
  isFirst : db.relationOf u.source = .ok first
  areOthers : u.joins.mapM (fun join => db.relationOf join.source) = .ok others
  projection : resolveProjection reject (frame first others)
    (resolveIn reject values (frame first others)) u.projection = .ok s.projection
  condition : resolveIn reject values (frame first others) u.condition = .ok s.condition
  joins : u.joins.mapM (resolveJoin reject values (frame first others)) = .ok s.joins
  backward : looksAhead first.headings.length
    (s.joins.zip (others.map fun r => r.headings.length)) = false

theorem resolve_eq_ok_iff : db.resolve reject values u = .ok s ↔
    ∃ first others, Resolves db reject values u s first others := by
  unfold resolve
  constructor
  · intro resolved
    obtain ⟨first, isFirst, resolved⟩ := bind_eq_ok_iff.mp resolved
    obtain ⟨others, areOthers, resolved⟩ := bind_eq_ok_iff.mp resolved
    obtain ⟨projection, isProjection, resolved⟩ := bind_eq_ok_iff.mp resolved
    obtain ⟨condition, isCondition, resolved⟩ := bind_eq_ok_iff.mp resolved
    obtain ⟨joins, areJoins, resolved⟩ := bind_eq_ok_iff.mp resolved
    split at resolved
    · cases resolved
    · rename_i backward
      cases resolved
      exact ⟨first, others, rfl, isFirst, areOthers, isProjection, isCondition, areJoins,
        Bool.eq_false_iff.mpr backward⟩
  · rintro ⟨first, others, source, isFirst, areOthers, projection, condition, joins, backward⟩
    refine bind_eq_ok_iff.mpr ⟨first, isFirst, bind_eq_ok_iff.mpr ⟨others, areOthers, ?_⟩⟩
    refine bind_eq_ok_iff.mpr ⟨s.projection, projection, bind_eq_ok_iff.mpr ⟨s.condition, condition, ?_⟩⟩
    refine bind_eq_ok_iff.mpr ⟨s.joins, joins, ?_⟩
    rw [if_neg (by simp [backward]), ← source]
    rfl

theorem resolveProjection_of_ok {r : Relation} {p : Projection ColumnName Nat}
    {p' : Projection Place Cell}
    (resolved : resolveProjection reject r (resolveIn reject values r) p = .ok p') :
    resolveProjection reject' r (resolveIn reject' values r) p = .ok p' := by
  cases p with
  | columnsOf label => exact resolved
  | aggregate operation argument =>
    obtain ⟨x, isArgument, same⟩ := map_eq_ok_iff.mp resolved
    exact map_eq_ok_iff.mpr ⟨x, resolveIn_of_ok isArgument, same⟩
  | overRows operation place =>
    cases operation with
    | count => exact resolved
    | sum | average | minimum | maximum => cases resolved

/-- Whether a statement has its columns does not depend on how a fault is told. -/
theorem Resolves.of_reject (resolves : Resolves db reject values u s first others) :
    Resolves db reject' values u s first others where
  source := resolves.source
  isFirst := resolves.isFirst
  areOthers := resolves.areOthers
  projection := resolveProjection_of_ok resolves.projection
  condition := resolveIn_of_ok resolves.condition
  joins := by
    have joins := mapM_eq_ok_iff.mp resolves.joins
    refine mapM_eq_ok_iff.mpr (joins.imp fun join join' resolved => ?_)
    obtain ⟨condition, isCondition, same⟩ := bind_eq_ok_iff.mp resolved
    exact bind_eq_ok_iff.mpr ⟨condition, resolveIn_of_ok isCondition, same⟩
  backward := resolves.backward

theorem Resolves.first_eq (resolves : Resolves db reject values u s first others) {t : Table}
    (isTable : db.table? s.source.table = some t) : first = .ofTable s.source.label t := by
  have isFirst := resolves.isFirst
  rw [← resolves.source, relationOf, isTable] at isFirst
  exact (Except.ok.inj isFirst).symm

theorem tables_of_resolveJoin {r : Relation} {joins : List (Join ColumnName Nat)}
    {joins' : List (Join Place Cell)}
    (resolved : List.Forall₂ (fun join join' => resolveJoin reject values r join = .ok join')
      joins joins')
    (tables : List.Forall₂ (fun join other => db.relationOf join.source = .ok other) joins others) :
    List.Forall₂ (fun join other => db.relationOf join.source = .ok other) joins' others := by
  induction resolved generalizing others with
  | nil =>
    cases tables
    exact .nil
  | cons isJoin _ ih =>
    cases tables with
    | cons isOther tables =>
      obtain ⟨condition, _, same⟩ := bind_eq_ok_iff.mp isJoin
      cases same
      exact .cons isOther (ih tables)

/-- The tables that are joined are those of the joins whose columns were found. -/
theorem Resolves.joinedTables (resolves : Resolves db reject values u s first others) :
    s.joins.mapM (fun join => db.relationOf join.source) = .ok others :=
  mapM_eq_ok_iff.mpr (tables_of_resolveJoin (mapM_eq_ok_iff.mp resolves.joins)
    (mapM_eq_ok_iff.mp resolves.areOthers))

theorem readStatement_eq_ok_iff : readStatement reject tokens = .ok u ↔
    Statement.ofTokens tokens = .ok u ∧ Token.firstMisgrouped? tokens = none := by
  unfold readStatement
  dsimp only
  split
  · rename_i read grouped
    simp [read, grouped]
  · rename_i read misgrouped
    simp [misgrouped]
  · rename_i read
    simp only [read]
    split <;> simp

/-- The tokens of a statement. -/
def tokensOf (sql : String) : List Token :=
  Token.readAll (beforeNul sql.toList)

/-- When a statement can be prepared, and what it is then. -/
theorem prepare_eq_ok_iff (reject : String → Nat → Fault) : db.prepare sql values = .ok s ↔
    ∃ u, Statement.ofTokens (tokensOf sql) = .ok u ∧
      Token.firstMisgrouped? (tokensOf sql) = none ∧
      (∃ first others, Resolves db reject values u s first others) ∧
      s.refusedNumbers = [] ∧ values.length = Token.valueCount (tokensOf sql) := by
  unfold prepare tokensOf
  dsimp only
  constructor
  · intro prepared
    obtain ⟨u, read, prepared⟩ := bind_eq_ok_iff.mp prepared
    obtain ⟨s', resolved, prepared⟩ := bind_eq_ok_iff.mp prepared
    obtain ⟨read, grouped⟩ := readStatement_eq_ok_iff.mp read
    obtain ⟨first, others, resolves⟩ := resolve_eq_ok_iff.mp resolved
    cases refused : s'.refusedNumbers.getLast? with
    | some told =>
      rw [refused] at prepared
      cases prepared
    | none =>
      simp only [refused] at prepared
      by_cases counted : values.length = Token.valueCount (Token.readAll (beforeNul sql.toList))
      · rw [if_neg (not_not_intro counted)] at prepared
        cases prepared
        exact ⟨u, read, grouped, ⟨first, others, resolves.of_reject⟩,
          List.getLast?_eq_none_iff.mp refused, counted⟩
      · rw [if_pos counted] at prepared
        cases prepared
  · rintro ⟨u, read, grouped, ⟨first, others, resolves⟩, refused, counted⟩
    refine bind_eq_ok_iff.mpr ⟨u, readStatement_eq_ok_iff.mpr ⟨read, grouped⟩, ?_⟩
    refine bind_eq_ok_iff.mpr ⟨s, resolve_eq_ok_iff.mpr ⟨first, others, resolves.of_reject⟩, ?_⟩
    rw [refused]
    exact if_neg (not_not_intro counted)

end Database

end Statbook.Sqlite
