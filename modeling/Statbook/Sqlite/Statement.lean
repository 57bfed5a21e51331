import Statbook.Stat.Operation
import Statbook.Text.Blank
import Statbook.Sqlite.Expression

/-!
# Statements

A statement selects rows of one table, to which others may be joined: either all columns of a
table, or one aggregate over the rows.
-/

namespace Statbook.Sqlite

/-- How the rows of a table are joined to the rows before. -/
inductive JoinKind where
  | inner
  /-- Rows without a match stay, with nothing beside them. -/
  | left
  deriving DecidableEq, Repr

/-- A table of a statement, under the name by which its columns are told apart. -/
structure Source where
  table : String
  label : String
  deriving DecidableEq, Repr

/-- A table that is joined, and the condition. -/
structure Join (κ π : Type) where
  kind : JoinKind
  source : Source
  condition : Expr κ π

/-- What a statement gives of its rows. -/
inductive Projection (κ π : Type) where
  /-- All columns of one of the tables. -/
  | columnsOf (label : String)
  /-- An aggregate over an expression. -/
  | aggregate (operation : Operation) (argument : Expr κ π)
  /-- An aggregate over whole rows, and the number of bytes from there to the end of the
  statement. Only the count has a meaning. -/
  | overRows (operation : Operation) (bytesOnward : Nat)

/-- A statement. -/
structure Statement (κ π : Type) where
  projection : Projection κ π
  source : Source
  joins : List (Join κ π)
  /-- The condition on the rows. -/
  condition : Expr κ π

/-- A statement as it is read. -/
abbrev UnresolvedStatement := Statement ColumnName Nat

namespace Reading

/-- The condition that every row meets. -/
def always : Unresolved := .literal (.integer 1)

/-- The aggregate with this name. -/
def aggregate? (name : String) : Option Operation :=
  Operation.operations.find? fun o => Text.sameIgnoringAsciiCase o.function name

/-- Takes what is selected. -/
def projection : Reading (Projection ColumnName Nat) := fun ts => do
  let (first, rest) ← name ts
  match afterMark? .dot rest with
  | some rest =>
    let (_, rest) ← mark .star rest
    pure (.columnsOf first, rest)
  | none =>
    match aggregate? first with
    | none => fail rest
    | some operation =>
      let (_, rest) ← mark .opening rest
      match afterMark? .star rest with
      | some rest =>
        let (_, rest) ← mark .closing rest
        pure (.overRows operation ((ts.head?.map Token.bytesOnward).getD 0), rest)
      | none =>
        let (e, rest) ← expression rest
        let (_, rest) ← mark .closing rest
        pure (.aggregate operation e, rest)

/-- Takes a table, and the name that it may be given. -/
def source : Reading Source := fun ts => do
  let (table, ts) ← name ts
  match afterWord? "as" ts with
  | some ts =>
    let (label, ts) ← name ts
    pure (⟨table, label⟩, ts)
  | none =>
    match ts.head?.any (isWordOf joinWords), name ts with
    | false, .ok (label, ts) => pure (⟨table, label⟩, ts)
    | _, _ => pure (⟨table, table⟩, ts)

/-- The kind of a join, and the tokens after the words for it. -/
def joinKind? (ts : List Token) : Option (JoinKind × List Token) :=
  match afterWord? "join" ts with
  | some ts => some (.inner, ts)
  | none =>
    match (afterWord? "inner" ts).orElse fun _ => afterWord? "cross" ts with
    | some ts => (afterWord? "join" ts).map fun ts => (.inner, ts)
    | none =>
      (afterWord? "left" ts).bind fun ts =>
        (afterWord? "join" ((afterWord? "outer" ts).getD ts)).map fun ts => (.left, ts)

/-- Takes a condition after a keyword; without the keyword there is none. -/
def optionalCondition (introduction : String) : Reading Unresolved := fun ts =>
  match afterWord? introduction ts with
  | some ts => expression ts
  | none => .ok (always, ts)

/-- Takes joins; `fuel` bounds their number. -/
def joins : (fuel : Nat) → Reading (List (Join ColumnName Nat))
  | 0, ts => .ok ([], ts)
  | fuel + 1, ts =>
    match joinKind? ts with
    | none => .ok ([], ts)
    | some (kind, ts) => do
      let (source, ts) ← source ts
      let (condition, ts) ← optionalCondition "on" ts
      let (others, ts) ← joins fuel ts
      pure (⟨kind, source, condition⟩ :: others, ts)

/-- Takes a statement. -/
def statement : Reading UnresolvedStatement := fun ts => do
  let (_, ts) ← keyword "select" ts
  let (projection, ts) ← projection ts
  let (_, ts) ← keyword "from" ts
  let (source, ts) ← source ts
  let (joins, ts) ← joins ts.length ts
  let (condition, ts) ← optionalCondition "where" ts
  pure (⟨projection, source, joins, condition⟩, ts)

end Reading

/-- The numbers of a statement that are refused, as they are told about, each with the number
of bytes onward. -/
def Statement.refusedNumbers {κ π : Type} (s : Statement κ π) : List (String × Nat) :=
  let ofProjection := match s.projection with
    | .aggregate _ argument => argument.refusedNumbers
    | _ => []
  ofProjection ++ s.joins.flatMap (fun join => join.condition.refusedNumbers) ++
    s.condition.refusedNumbers

/-- The statement that the tokens make; all of them belong to it. -/
def Statement.ofTokens (ts : List Token) : Except (Option Token) UnresolvedStatement :=
  match Reading.statement ts with
  | .ok (s, []) => .ok s
  | .ok (_, t :: _) => .error (some t)
  | .error token => .error token

end Statbook.Sqlite
