import Statbook.Proofs.Sqlite.Prepared

/-!
# Expressions apart from their statement

Where an expression stands in a statement matters only for what is told about a fault, and the
number of a value only for the value that it finds. Without both of them expressions of different
statements can be compared; they have the same value in every row.
-/

namespace Statbook.Sqlite

namespace Expr

section Settle

variable {κ π : Type} {name : κ → κ} {cell : π → Cell}

/-- The expression with other columns, the values that it is given as literals, and no places in
the statement. -/
def settle (name : κ → κ) (cell : π → Cell) : Expr κ π → Expr κ π
  | literal c => literal c
  | number negative n _ => number negative n 0
  | parameter p => literal (cell p)
  | .column k => .column (name k)
  | bare e => bare (e.settle name cell)
  | minus e => minus (e.settle name cell)
  | compare comparison a b => compare comparison (a.settle name cell) (b.settle name cell)
  | isNull e => isNull (e.settle name cell)
  | not e => not (e.settle name cell)
  | and a b => and (a.settle name cell) (b.settle name cell)
  | or a b => or (a.settle name cell) (b.settle name cell)

theorem settle_isBetween (a b c : Expr κ π) : (a.isBetween b c).settle name cell =
    (a.settle name cell).isBetween (b.settle name cell) (c.settle name cell) :=
  rfl

theorem settle_isOneOf (a : Expr κ π) (items : List (Expr κ π)) :
    (a.isOneOf items).settle name cell =
      (a.settle name cell).isOneOf (items.map (settle name cell)) := by
  induction items with
  | nil => rfl
  | cons item items ih => simp only [isOneOf, settle, List.map_cons, ih]

theorem settle_positive (a : Expr κ π) :
    a.positive.settle name cell = (a.settle name cell).positive := by
  cases a <;> rfl

theorem settle_negated (a : Expr κ π) :
    a.negated.settle name cell = (a.settle name cell).negated := by
  cases a with
  | number negative => cases negative <;> rfl
  | bare e =>
    cases e with
    | number negative => cases negative <;> rfl
    | _ => rfl
  | _ => rfl

end Settle

/-- The value with a number. -/
def valueAt (values : List Cell) (number : Nat) : Cell :=
  (values[number - 1]?).getD .null

/-- An expression as it was read, given values. -/
def given (values : List Cell) : Unresolved → Unresolved :=
  settle (fun name => { name with bytesOnward := 0 }) (valueAt values)

/-- An expression over places, apart from its statement. -/
def plain : Resolved → Resolved :=
  settle id id

variable {row : List Cell}

@[simp] theorem affinity?_plain (e : Resolved) : affinity? e.plain = affinity? e := by
  cases e <;> rfl

@[simp] theorem value_plain (row : List Cell) (e : Resolved) : value row e.plain = value row e := by
  induction e with
  | literal | number | parameter | column => rfl
  | bare e ih | minus e ih | isNull e ih | not e ih =>
    simp only [plain, settle, value] at ih ⊢
    rw [ih]
  | and a b iha ihb | or a b iha ihb =>
    simp only [plain, settle, value] at iha ihb ⊢
    rw [iha, ihb]
  | compare comparison a b iha ihb =>
    have affinity (e : Resolved) : affinity? (settle id id e) = affinity? e := affinity?_plain e
    simp only [plain, settle, value, affinity] at iha ihb ⊢
    rw [iha, ihb]

@[simp] theorem holdsIn_plain (e : Resolved) : e.plain.holdsIn row = e.holdsIn row := by
  unfold holdsIn
  rw [value_plain]

@[simp] theorem reaches_plain (width : Nat) (e : Resolved) :
    e.plain.reaches width = e.reaches width := by
  induction e with
  | literal | number | parameter | column => rfl
  | bare e ih | minus e ih | isNull e ih | not e ih => exact ih
  | compare _ a b iha ihb | and a b iha ihb | or a b iha ihb =>
    simp only [plain, settle, reaches] at iha ihb ⊢
    rw [iha, ihb]

theorem refusedNumbers_plain (e : Resolved) :
    e.plain.refusedNumbers = e.refusedNumbers.map fun (told, _) => (told, 0) := by
  induction e with
  | literal | parameter | column => rfl
  | number negative n place =>
    simp only [plain, settle, refusedNumbers]
    cases n.refused? negative <;> rfl
  | bare e ih | minus e ih | isNull e ih | not e ih => exact ih
  | compare _ a b iha ihb | and a b iha ihb | or a b iha ihb =>
    simp only [plain, settle, refusedNumbers, List.map_append] at iha ihb ⊢
    rw [iha, ihb]

theorem refusedNumbers_plain_eq_nil {e : Resolved} :
    e.plain.refusedNumbers = [] ↔ e.refusedNumbers = [] := by
  rw [refusedNumbers_plain, List.map_eq_nil_iff]

end Expr

/-- A fault that is told without a place. -/
def plainly (told : String) (_ : Nat) : Fault :=
  .result Fault.generalCode told

namespace Relation

/-- Where the name of a column stands does not matter for the place of the column. -/
theorem resolveColumn_unplaced (r : Relation) (name : ColumnName) :
    r.resolveColumn plainly { name with bytesOnward := 0 } =
      (r.resolveColumn plainly name).map Expr.plain := by
  unfold resolveColumn
  dsimp only
  split
  · rfl
  · cases name.otherwise <;> rfl
  · rfl

end Relation

namespace Database

variable {r : Relation} {values values' : List Cell}

/-- An expression finds its columns and values in the same way apart from its statement. -/
theorem resolveIn_given (r : Relation) (values values' : List Cell) (e : Unresolved) :
    resolveIn plainly values' r (e.given values) = (resolveIn plainly values r e).map Expr.plain := by
  unfold resolveIn Expr.given
  induction e with
  | literal | number | parameter => rfl
  | column name => exact r.resolveColumn_unplaced name
  | bare e ih | minus e ih | isNull e ih | not e ih =>
    simp only [Expr.settle, Expr.resolve, ih]
    cases Expr.resolve (r.resolveColumn plainly) _ e <;> rfl
  | compare _ a b iha ihb | and a b iha ihb | or a b iha ihb =>
    simp only [Expr.settle, Expr.resolve, iha, ihb]
    cases Expr.resolve (r.resolveColumn plainly) _ a with
    | error => rfl
    | ok x => cases Expr.resolve (r.resolveColumn plainly) _ b <;> rfl

end Database

/-- A statement as it was read, given values. -/
def Statement.given (values : List Cell) (u : UnresolvedStatement) : UnresolvedStatement :=
  { u with
    joins := u.joins.map fun join => { join with condition := join.condition.given values }
    condition := u.condition.given values }

/-- A statement over places, apart from where its expressions stand. -/
def Statement.plain (s : Statement Place Cell) : Statement Place Cell :=
  { s with
    joins := s.joins.map fun join => { join with condition := join.condition.plain }
    condition := s.condition.plain }

namespace Database

variable {db : Database} {u : UnresolvedStatement} {s : Statement Place Cell} {label : String}
  {values : List Cell}

theorem resolveJoins_given (r : Relation) (joins : List (Join ColumnName Nat)) :
    (joins.map fun join => { join with condition := join.condition.given values }).mapM
        (resolveJoin plainly [] r) =
      (joins.mapM (resolveJoin plainly values r)).map fun joins =>
        joins.map fun join => { join with condition := join.condition.plain } := by
  induction joins with
  | nil => rfl
  | cons join joins ih =>
    have first : resolveJoin plainly [] r { join with condition := join.condition.given values } =
        (resolveJoin plainly values r join).map fun join =>
          { join with condition := join.condition.plain } := by
      unfold resolveJoin
      rw [resolveIn_given]
      cases resolveIn plainly values r join.condition <;> rfl
    rw [List.map_cons, List.mapM_cons, List.mapM_cons, first, ih]
    cases resolveJoin plainly values r join with
    | error => rfl
    | ok join' => cases joins.mapM (resolveJoin plainly values r) <;> rfl

theorem looksAhead_plain (width : Nat) (joins : List (Join Place Cell)) (places : List Nat) :
    looksAhead width ((joins.map fun join => { join with condition := join.condition.plain }).zip
      places) = looksAhead width (joins.zip places) := by
  induction joins generalizing width places with
  | nil => rfl
  | cons join joins ih =>
    cases places with
    | nil => rfl
    | cons count places =>
      simp only [List.map_cons, List.zip_cons_cons, looksAhead, Expr.reaches_plain, ih]

theorem relationsOf_given (joins : List (Join ColumnName Nat)) :
    (joins.map fun join => { join with condition := join.condition.given values }).mapM
        (fun join => db.relationOf join.source) =
      joins.mapM fun join => db.relationOf join.source := by
  induction joins with
  | nil => rfl
  | cons join joins ih => rw [List.map_cons, List.mapM_cons, List.mapM_cons, ih]

/-- A statement for the columns of a table finds its columns and values in the same way apart from
where its expressions stand. -/
theorem resolves_given {s' : Statement Place Cell} {first : Relation} {others : List Relation}
    (isColumns : u.projection = .columnsOf label) :
    Resolves db plainly [] (u.given values) s' first others ↔
      ∃ s, Resolves db plainly values u s first others ∧ s.plain = s' := by
  have projection (resolve resolve' : Unresolved → Except Fault Resolved) :
      resolveProjection plainly (frame first others) resolve u.projection =
        resolveProjection plainly (frame first others) resolve' u.projection := by
    rw [isColumns]
    rfl
  constructor
  · intro resolves
    have condition := resolves.condition
    have joins := resolves.joins
    have areOthers := resolves.areOthers
    have backward := resolves.backward
    rw [Statement.given, resolveIn_given] at condition
    rw [Statement.given, resolveJoins_given] at joins
    rw [Statement.given, relationsOf_given] at areOthers
    obtain ⟨c, isCondition, plain⟩ := map_eq_ok_iff.mp condition
    obtain ⟨js, areJoins, plains⟩ := map_eq_ok_iff.mp joins
    rw [← plains, looksAhead_plain] at backward
    refine ⟨⟨s'.projection, s'.source, js, c⟩, ⟨resolves.source, resolves.isFirst, areOthers, ?_,
      isCondition, areJoins, backward⟩, ?_⟩
    · rw [projection _ (resolveIn plainly [] (frame first others))]
      exact resolves.projection
    · rw [Statement.plain, plain, plains]
  · rintro ⟨s, resolves, rfl⟩
    refine ⟨resolves.source, resolves.isFirst, ?_, ?_, ?_, ?_, ?_⟩
    · rw [Statement.given, relationsOf_given]
      exact resolves.areOthers
    · show resolveProjection _ _ _ u.projection = _
      rw [projection _ (resolveIn plainly values (frame first others))]
      exact resolves.projection
    · rw [Statement.given, resolveIn_given, resolves.condition]
      rfl
    · rw [Statement.given, resolveJoins_given, resolves.joins]
      rfl
    · rw [Statement.plain, looksAhead_plain]
      exact resolves.backward

theorem refusedNumbers_plain_eq_nil (isColumns : s.projection = .columnsOf label) :
    s.plain.refusedNumbers = [] ↔ s.refusedNumbers = [] := by
  simp only [Statement.refusedNumbers, Statement.plain, isColumns, List.nil_append,
    List.append_eq_nil_iff, List.flatMap_eq_nil_iff, List.forall_mem_map,
    Expr.refusedNumbers_plain_eq_nil]

/-- The rows that are selected do not depend on where the expressions stand. -/
theorem selected_plain (db : Database) (s : Statement Place Cell) :
    db.selected s.plain = db.selected s := by
  have join (r : Relation) (join : Join Place Cell) :
      db.addJoin r { join with condition := join.condition.plain } = db.addJoin r join := by
    simp only [addJoin, Expr.holdsIn_plain]
  have conditions (r : Relation) : r.filter (rowConditions s.plain) = r.filter (rowConditions s) := by
    unfold Relation.filter rowConditions Statement.plain
    simp [List.filter_map, Function.comp_def, List.all_map]
  unfold selected
  simp only [conditions]
  simp only [Statement.plain, List.foldlM_map, join]

end Database

end Statbook.Sqlite
