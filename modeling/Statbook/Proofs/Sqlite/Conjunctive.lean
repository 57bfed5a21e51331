import Statbook.Proofs.Sqlite.Grounds
import Statbook.Proofs.Sqlite.Shown

/-!
# Constraints narrow a query

The rows of a query are those of the query without constraints that meet each of its constraints, as
the statement with that one alone selects them. This is so for constraints that stand for themselves,
and for joins that leave alone what follows them.
-/

namespace Statbook.Sqlite

namespace Token

variable {ts : List Token}

theorem firstMisgrouped?_eq_none : firstMisgrouped? ts = none ↔ ∀ t ∈ ts, t.misgrouped? = none := by
  induction ts with
  | nil => simp [firstMisgrouped?]
  | cons t ts ih =>
    rw [firstMisgrouped?, List.forall_mem_cons, ← ih]
    cases t.misgrouped? <;> simp

end Token

namespace Connection

open Token Reading Database

variable {query : Query} {db : Database} {source : Source} {joins : List (Join ColumnName Nat)}
  {es : List Unresolved} {last : List Token} {s s' : Statement Place Cell}

/-- Whether the constraints of a query are these conditions. -/
def AreConditions (query : Query) (es : List Unresolved) : Prop :=
  List.Forall₂ (fun k e => conditionOf? query.table k = some e) query.constraints es

theorem length_cells (query : Query) :
    (cells query).length = (query.constraints.flatMap Constraint.values).length :=
  List.length_map _

/-- The condition of a query, read with the word in front of it. -/
theorem read_where (whole : nul ∉ query.table.toList)
    (stands : ∀ k ∈ query.constraints, StandsAlone k) (areConditions : AreConditions query es)
    (isWhere : WhereTokens query last) :
    Takes 0 (cells query).length (last.map Token.lexeme) ∧
      ((∀ t ∈ last, t.misgrouped? = none) ↔ ∀ k ∈ query.constraints, Grouped k) ∧
      ∃ e, optionalCondition "where" last = .ok (e, []) ∧ e.given (cells query) = allOf es := by
  rw [length_cells]
  cases isWhere with
  | nothing none =>
    unfold AreConditions at areConditions
    rw [none] at areConditions ⊢
    cases areConditions
    exact ⟨takes_plain (by simp) 0, by simp, always, rfl, rfl⟩
  | @condition t largest constrained isWhere =>
    have all := joined whole constrained stands areConditions
    have noNul := nul_notMem_conditions whole areConditions
    have numbered : ∀ t ∈ lex (conditionChars query.table query.constraints),
        t.lexeme ≠ .parameter none :=
      fun _ member lexeme => all.takes.numbered (lexeme ▸ List.mem_map_of_mem member)
    rw [beforeNul_eq noNul, numberParameters_eq numbered]
    have word : Takes 0 0 [.word "WHERE"] := takes_plain (by simp [Lexeme.isPlain]) 0
    have whole := word.append all.takes
    have noNumber : t.misgrouped? = none := misgrouped?_eq_none (by simp [isWhere])
    have spelled : "WHERE".toLower = "where" := by decide +kernel
    obtain ⟨e, read, given⟩ := all.read
    refine ⟨?_, ?_, e, ?_, given⟩
    · rw [List.map_cons, isWhere]
      rwa [Nat.zero_add] at whole
    · rw [List.forall_mem_cons, all.grouped]
      simp only [noNumber, true_and]
    · simpa [optionalCondition, afterWord?, word?, isWhere, spelled] using read

theorem given_of_alike {values values' : List Cell} {joins joins' : List (Join ColumnName Nat)}
    (alike : List.Forall₂ (AlikeJoin values values') joins joins') :
    (joins.map fun join => { join with condition := join.condition.given values }) =
      joins'.map fun join => { join with condition := join.condition.given values' } := by
  induction alike with
  | nil => rfl
  | @cons join join' _ _ first _ ih =>
    rw [List.map_cons, List.map_cons, ih, first.kind, first.source, first.condition]

/-- The statement of a query as its table, its joins and its conditions make it. -/
def groundStatement (query : Query) (source : Source) (joins : List (Join ColumnName Nat))
    (condition : Unresolved) : UnresolvedStatement :=
  ⟨.columnsOf query.table, source,
    joins.map fun join => { join with condition := join.condition.given [] }, condition⟩

theorem grouped_onward {front : List Token} {rest : List Char}
    (same : List.Forall₂ Same (groundTokens query) front) :
    firstMisgrouped? (word "FROM" rest :: (front ++ last)) = none ↔
      (∀ t ∈ lex query.joinChars, t.misgrouped? = none) ∧ ∀ t ∈ last, t.misgrouped? = none := by
  have words : (word "FROM" rest).misgrouped? = none ∧
      (quoted query.table []).misgrouped? = none := ⟨rfl, rfl⟩
  rw [firstMisgrouped?_eq_none, List.forall_mem_cons, List.forall_mem_append, ← grouped_of_same same,
    groundTokens, List.forall_mem_cons]
  simp only [words, true_and]

theorem valueCount_onward {front : List Token} {rest : List Char} {count : Nat}
    (stand : JoinsStand query) (same : List.Forall₂ Same (groundTokens query) front)
    (takes : Takes 0 count (last.map Token.lexeme)) :
    valueCount (word "FROM" rest :: (front ++ last)) = count := by
  have noPlace := noPlace_of_same same (groundTokens_noPlace stand)
  have inFront : Takes 0 0 ((word "FROM" rest :: front).map Token.lexeme) := by
    refine takes_none (fun l member number => ?_) 0
    obtain ⟨t, isToken, rfl⟩ := List.mem_map.mp member
    obtain rfl | inFront := List.mem_cons.mp isToken
    · simp [word, Token.before]
    · exact parameter_ne (noPlace t inFront) number
  have all := (inFront.append takes).largest
  rw [valueCount_eq, ← List.cons_append, List.map_append, all, Nat.zero_add, Nat.zero_add]

theorem projection_of_resolves {u : UnresolvedStatement} {values : List Cell} {first : Relation}
    {others : List Relation} (resolves : Resolves db plainly values u s first others)
    (isColumns : u.projection = .columnsOf query.table) : s.projection = .columnsOf query.table :=
  (unrepeated_of_resolves resolves isColumns).1

/-- A query has a statement if its tokens have no misplaced separators and if the statement that its
table, its joins and its conditions make can be prepared. -/
theorem rowStatement_plain (whole : nul ∉ query.table.toList) (stand : JoinsStand query)
    (stands : ∀ k ∈ query.constraints, StandsAlone k) (grounded : Grounded query source joins)
    (areConditions : AreConditions query es) :
    (∃ s, rowStatement db query = .ok s ∧ s.plain = s') ↔
      (∀ t ∈ lex query.joinChars, t.misgrouped? = none) ∧ (∀ k ∈ query.constraints, Grouped k) ∧
      (∃ first others, Resolves db plainly [] (groundStatement query source joins (allOf es)) s'
        first others) ∧ s'.refusedNumbers = [] := by
  obtain ⟨rest, front, last, same, isWhere, tokens⟩ := onwardTokens_eq whole stand stands
  obtain ⟨takes, grouped, e, isCondition, given⟩ := read_where whole stands areConditions isWhere
  obtain ⟨js, alike, read⟩ :=
    @body_of_grounded query last source joins e front rest stand same isWhere (cells query) grounded
      isCondition
  obtain ⟨p, rfl, asked⟩ := prepare_selectText db (cells query) plainly
    (nul_notMem_rowProjection whole) (projects_rowProjection query) (onward query)
  let u : UnresolvedStatement := ⟨.columnsOf query.table, source, js, e⟩
  have isGiven : groundStatement query source joins (allOf es) = u.given (cells query) := by
    rw [groundStatement, given_of_alike alike, ← given]
    rfl
  simp only [rowStatement_eq, asked, tokens, read, grouped_onward same, grouped,
    valueCount_onward stand same takes, isGiven, resolves_given (u := u) rfl, and_true]
  constructor
  · rintro ⟨s, ⟨v, isColumns, isRead, ⟨inJoins, inConstraints⟩, ⟨first, others, resolves⟩, refused⟩, rfl⟩
    obtain rfl : v = u := by
      obtain ⟨projection, source', joins', condition⟩ := v
      cases isColumns
      cases isRead
      rfl
    exact ⟨inJoins, inConstraints, ⟨first, others, s, resolves, rfl⟩,
      (refusedNumbers_plain_eq_nil (projection_of_resolves resolves rfl)).mpr refused⟩
  · rintro ⟨inJoins, inConstraints, ⟨first, others, s, resolves, rfl⟩, refused⟩
    exact ⟨s, ⟨u, rfl, rfl, ⟨inJoins, inConstraints⟩, ⟨first, others, resolves⟩,
      (refusedNumbers_plain_eq_nil (projection_of_resolves resolves rfl)).mp refused⟩, rfl⟩

/-- A query with constraints that has a statement has a table, joins and conditions. -/
theorem conditions_of_rowStatement (stand : JoinsStand query)
    (stands : ∀ k ∈ query.constraints, StandsAlone k) (constrained : query.constraints ≠ [])
    (prepared : rowStatement db query = .ok s) :
    nul ∉ query.table.toList ∧ ∃ source joins es, Grounded query source joins ∧ AreConditions query es := by
  rw [rowStatement_eq] at prepared
  have whole := nul_notMem_of_prepared prepared
  refine ⟨whole, ?_⟩
  obtain ⟨rest, front, last, same, isWhere, tokens⟩ := onwardTokens_eq whole stand stands
  obtain ⟨p, -, asked⟩ := prepare_selectText db (cells query) plainly
    (nul_notMem_rowProjection whole) (projects_rowProjection query) (onward query)
  obtain ⟨u, -, read, -⟩ := (asked s).mp prepared
  rw [tokens] at read
  obtain ⟨joins, grounded, -, isCondition⟩ := grounded_of_body stand same isWhere constrained [] read
  have all : ∀ k ∈ query.constraints, ∃ e, conditionOf? query.table k = some e := by
    intro k member
    rw [← Option.isSome_iff_exists]
    by_contra refused
    cases isWhere with
    | nothing none => exact constrained none
    | @condition t largest _ isWhere =>
      have spelled : "WHERE".toLower = "where" := by decide +kernel
      refine @refuses_joined query.table query.constraints u.condition whole stands
        ⟨k, member, Option.not_isSome_iff_eq_none.mp refused⟩ largest ?_
      simpa [optionalCondition, afterWord?, word?, isWhere, spelled] using isCondition
  obtain ⟨es, areConditions⟩ := exists_forall₂ all
  exact ⟨u.source, joins, es, grounded, areConditions⟩

end Connection

namespace Database

open Sqlite.Expr Reading

variable {db : Database} {r : Relation} {e : Unresolved} {es : List Unresolved} {c : Resolved}
  {cs : List Resolved} {row : List Cell}

/-- Conditions joined by `AND`, over places. -/
def meetAll : List Resolved → Resolved
  | [] => .literal (.integer 1)
  | c :: cs => cs.foldl .and c

theorem truth?_ofTruth (truth : Option Bool) : (Cell.ofTruth truth).truth? = truth := by
  match truth with
  | none | some false | some true => rfl

/-- Of three truth values, `AND` gives the true one for two of it alone. -/
theorem holdsIn_and (a b : Resolved) : (Expr.and a b).holdsIn row = (a.holdsIn row && b.holdsIn row) := by
  unfold holdsIn
  rw [value, truth?_ofTruth]
  rcases (value row a).truth? with _ | _ | _
  all_goals
    rcases (value row b).truth? with _ | _ | _
    all_goals rfl

theorem holdsIn_meetAll (cs : List Resolved) : (meetAll cs).holdsIn row = cs.all (·.holdsIn row) := by
  cases cs with
  | nil => rfl
  | cons c cs =>
    rw [meetAll, List.all_cons]
    induction cs generalizing c with
    | nil => simp
    | cons d cs ih => rw [List.foldl_cons, ih, holdsIn_and, List.all_cons, Bool.and_assoc]

theorem refusedNumbers_meetAll (cs : List Resolved) :
    (meetAll cs).refusedNumbers = cs.flatMap refusedNumbers := by
  cases cs with
  | nil => rfl
  | cons c cs =>
    rw [meetAll, List.flatMap_cons]
    induction cs generalizing c with
    | nil => simp
    | cons d cs ih => rw [List.foldl_cons, ih, List.flatMap_cons, refusedNumbers, List.append_assoc]

theorem resolveIn_allOf : resolveIn plainly [] r (allOf es) = .ok c ↔
    ∃ cs, List.Forall₂ (fun e c => resolveIn plainly [] r e = .ok c) es cs ∧ c = meetAll cs := by
  have conjuncts (es : List Unresolved) (e : Unresolved) (c : Resolved) :
      resolveIn plainly [] r (es.foldl .and e) = .ok c ↔ ∃ d cs, resolveIn plainly [] r e = .ok d ∧
        List.Forall₂ (fun e c => resolveIn plainly [] r e = .ok c) es cs ∧ c = cs.foldl .and d := by
    induction es generalizing e with
    | nil => simp
    | cons e' es ih =>
      rw [List.foldl_cons, ih]
      constructor
      · rintro ⟨d, cs, both, others, rfl⟩
        obtain ⟨a, isFirst, both⟩ := bind_eq_ok_iff.mp both
        obtain ⟨b, isSecond, same⟩ := bind_eq_ok_iff.mp both
        cases same
        exact ⟨a, b :: cs, isFirst, .cons isSecond others, rfl⟩
      · rintro ⟨a, cs, isFirst, others, rfl⟩
        cases others with
        | @cons _ b _ cs isSecond others =>
          exact ⟨.and a b, cs, bind_eq_ok_iff.mpr ⟨a, isFirst, bind_eq_ok_iff.mpr ⟨b, isSecond, rfl⟩⟩,
            others, rfl⟩
  cases es with
  | nil =>
    constructor
    · intro resolved
      cases resolved
      exact ⟨[], .nil, rfl⟩
    · rintro ⟨cs, none, rfl⟩
      cases none
      rfl
  | cons e es =>
    refine (conjuncts es e c).trans ⟨?_, ?_⟩
    · rintro ⟨d, cs, isFirst, others, rfl⟩
      exact ⟨d :: cs, .cons isFirst others, rfl⟩
    · rintro ⟨cs, all, rfl⟩
      cases all with
      | cons isFirst others => exact ⟨_, _, isFirst, others, rfl⟩

/-- The statement with another condition. -/
theorem resolves_ground {query : Query} {source : Source} {joins : List (Join ColumnName Nat)}
    {s : Statement Place Cell} {first : Relation} {others : List Relation} :
    Resolves db plainly [] (Connection.groundStatement query source joins e) s first others ↔
      Resolves db plainly [] (Connection.groundStatement query source joins always)
        { s with condition := .literal (.integer 1) } first others ∧
      resolveIn plainly [] (frame first others) e = .ok s.condition := by
  constructor
  · intro resolves
    exact ⟨{ resolves with condition := rfl }, resolves.condition⟩
  · rintro ⟨resolves, condition⟩
    exact { resolves with condition := condition }

theorem selected_condition (s : Statement Place Cell) (c : Resolved) :
    db.selected { s with condition := c } =
      (db.selected { s with condition := .literal (.integer 1) }).map fun r =>
        { r with rows := r.rows.filter c.holdsIn } := by
  have rows (r : Relation) : r.filter (rowConditions { s with condition := c }) =
      { r.filter (rowConditions { s with condition := .literal (.integer 1) }) with
        rows := (r.filter (rowConditions { s with condition := .literal (.integer 1) })).rows.filter
          c.holdsIn } := by
    have always (row : List Cell) : (Expr.literal (.integer 1) : Resolved).holdsIn row = true := rfl
    simp only [Relation.filter, rowConditions, List.all_cons, always, Bool.true_and,
      List.filter_filter]
  unfold selected
  cases db.relationOf s.source with
  | error => rfl
  | ok first =>
    cases joined : s.joins.foldlM db.addJoin first with
    | error => simp [bind, Except.bind, Except.map, joined]
    | ok r => simp [bind, Except.bind, Except.map, joined, pure, Except.pure, rows]

end Database

namespace Connection

open Database Reading

variable {db : Database} {query : Query} {c : Connection} {records : List Record}

/-- Whether a row meets a constraint, as the statement with that one alone has it. -/
def meets (db : Database) (query : Query) (row : List Cell) (k : Constraint) : Bool :=
  (rowStatement db (query.only [k])).toOption.any (·.condition.holdsIn row)

variable {source : Source} {joins : List (Join ColumnName Nat)} {first : Relation}
  {others : List Relation} {s s₀ : Statement Place Cell} {ks : List Constraint} {cs : List Resolved}
  {k : Constraint} {x : Resolved} {row : List Cell}

/-- A query without constraints that has a statement. -/
structure Base (db : Database) (query : Query) (source : Source) (joins : List (Join ColumnName Nat))
    (first : Relation) (others : List Relation) (s₀ : Statement Place Cell) : Prop where
  whole : nul ∉ query.table.toList
  stand : JoinsStand query
  grounded : Grounded query source joins
  grouped : ∀ t ∈ Token.lex query.joinChars, t.misgrouped? = none
  resolves : Resolves db plainly [] (groundStatement query source joins Reading.always) s₀ first others
  refused : s₀.refusedNumbers = []

/-- A constraint that is a condition over the tables of a query. -/
structure IsCondition (table : String) (r : Relation) (k : Constraint) (x : Resolved) : Prop where
  stands : StandsAlone k
  grouped : Grouped k
  found : ∃ e, conditionOf? table k = some e ∧ resolveIn plainly [] r e = .ok x
  refused : x.refusedNumbers = []

theorem Base.condition (base : Base db query source joins first others s₀) :
    s₀.condition = .literal (.integer 1) :=
  (Except.ok.inj base.resolves.condition).symm

theorem Base.eq_always (base : Base db query source joins first others s₀) :
    ({ s₀ with condition := .literal (.integer 1) } : Statement Place Cell) = s₀ := by
  rw [← base.condition]

theorem refusedNumbers_condition (s : Statement Place Cell) (x : Resolved) :
    ({ s with condition := x } : Statement Place Cell).refusedNumbers = [] ↔
      ({ s with condition := .literal (.integer 1) } : Statement Place Cell).refusedNumbers = [] ∧
        x.refusedNumbers = [] := by
  simp [Statement.refusedNumbers, Expr.refusedNumbers, and_assoc]

/-- With constraints that are conditions, a query selects by all of them. -/
theorem Base.rowStatement_only (base : Base db query source joins first others s₀)
    (areConditions : List.Forall₂ (IsCondition query.table (frame first others)) ks cs) :
    ∃ s, rowStatement db (query.only ks) = .ok s ∧ s.plain = { s₀ with condition := meetAll cs } := by
  obtain ⟨es, found, resolved⟩ :=
    forall₂_comp_iff.mp (areConditions.imp fun _ _ isCondition => isCondition.found)
  have stands : ∀ k ∈ ks, StandsAlone k := fun k member =>
    have ⟨_, _, isCondition⟩ := exists_of_forall₂ areConditions member
    isCondition.stands
  have grouped : ∀ k ∈ ks, Grouped k := fun k member =>
    have ⟨_, _, isCondition⟩ := exists_of_forall₂ areConditions member
    isCondition.grouped
  have refused : ∀ x ∈ cs, x.refusedNumbers = [] := fun x member =>
    have ⟨_, _, isCondition⟩ := exists_of_forall₂ areConditions.flip member
    isCondition.refused
  have stand : JoinsStand (query.only ks) :=
    { base.stand with }
  refine (@rowStatement_plain (query.only ks) db source joins es _ base.whole stand stands
    base.grounded found).mpr ⟨base.grouped, grouped, ⟨first, others, ?_⟩, ?_⟩
  · refine resolves_ground.mpr ⟨?_, resolveIn_allOf.mpr ⟨cs, resolved, rfl⟩⟩
    rw [base.eq_always]
    exact base.resolves
  · rw [refusedNumbers_condition, base.eq_always, refusedNumbers_meetAll, List.flatMap_eq_nil_iff]
    exact ⟨base.refused, refused⟩

/-- A query with constraints that has a statement has one without them, and its constraints are
conditions. -/
theorem base_of_rowStatement (stand : JoinsStand query)
    (stands : ∀ k ∈ query.constraints, StandsAlone k) (constrained : query.constraints ≠ [])
    (prepared : rowStatement db query = .ok s) :
    ∃ source joins first others s₀ cs, Base db query source joins first others s₀ ∧
      List.Forall₂ (IsCondition query.table (frame first others)) query.constraints cs := by
  obtain ⟨whole, source, joins, es, grounded, areConditions⟩ :=
    conditions_of_rowStatement stand stands constrained prepared
  obtain ⟨inJoins, inConstraints, ⟨first, others, resolves⟩, refused⟩ :=
    (rowStatement_plain whole stand stands grounded areConditions).mp ⟨s, prepared, rfl⟩
  obtain ⟨base, condition⟩ := resolves_ground.mp resolves
  obtain ⟨cs, resolved, isAll⟩ := resolveIn_allOf.mp condition
  obtain ⟨refused, refusedAll⟩ := (refusedNumbers_condition s.plain s.plain.condition).mp refused
  rw [isAll, refusedNumbers_meetAll, List.flatMap_eq_nil_iff] at refusedAll
  refine ⟨source, joins, first, others, _, cs,
    ⟨whole, stand, grounded, inJoins, base, refused⟩, ?_⟩
  have found := forall₂_comp_iff.mpr ⟨es, areConditions, resolved⟩
  have noneRefused := ((List.forall₂_and_left _ _).mpr ⟨refusedAll, found.flip⟩).flip
  exact forall₂_of_mem noneRefused fun k member x isCondition =>
    ⟨stands k member, inConstraints k member, isCondition.2, isCondition.1⟩

/-- A row meets a constraint if the condition that this is holds in it. -/
theorem Base.meets_eq (base : Base db query source joins first others s₀)
    (isCondition : IsCondition query.table (frame first others) k x) (row : List Cell) :
    meets db query row k = x.holdsIn row := by
  obtain ⟨s, prepared, plain⟩ := base.rowStatement_only (.cons isCondition .nil)
  have condition : s.condition.plain = x := congrArg Statement.condition plain
  rw [meets, prepared, ← condition]
  simp [Except.toOption]

/-- The rows that a query selects with constraints that are conditions. -/
theorem Base.selected_only (base : Base db query source joins first others s₀) {r : Relation}
    (isBase : db.selected s₀ = .ok r)
    (areConditions : List.Forall₂ (IsCondition query.table (frame first others)) ks cs) :
    ∃ s, rowStatement db (query.only ks) = .ok s ∧ db.selected s =
      .ok { r with rows := r.rows.filter fun row => ks.all (meets db query row) } := by
  have all (row : List Cell) : (meetAll cs).holdsIn row = ks.all (meets db query row) := by
    rw [holdsIn_meetAll]
    induction areConditions with
    | nil => rfl
    | cons isCondition _ ih => rw [List.all_cons, List.all_cons, ih, base.meets_eq isCondition]
  obtain ⟨s, prepared, plain⟩ := base.rowStatement_only areConditions
  refine ⟨s, prepared, ?_⟩
  rw [← selected_plain, plain, selected_condition, base.eq_always, isBase]
  simp only [Except.map, all]

theorem fetch_of_selected {r : Relation} (isDatabase : c.database = .ok db)
    (prepared : rowStatement db query = .ok s) (selected : db.selected s = .ok r) :
    (fetch query c).1 = .ok (r.rows.map (recordIn r query.table)) :=
  fetch_eq_ok_iff.mpr ⟨db, s, r, isDatabase, by rw [← rowStatement_eq, prepared], selected, rfl⟩

/-- The rows of a query without constraints, and those that are left for each of its constraints. -/
theorem fetch_only_filters (stand : JoinsStand query) (stands : ∀ k ∈ query.constraints, StandsAlone k)
    (fetched : (fetch query c).1 = .ok records) :
    ∃ db r, c.database = .ok db ∧ (rowStatement db (query.only []) >>= db.selected) = .ok r ∧
      ∀ ks ⊆ query.constraints, (fetch (query.only ks) c).1 =
        .ok ((r.rows.filter fun row => ks.all (meets db query row)).map (recordIn r query.table)) := by
  obtain ⟨db, s, r, isDatabase, prepared, selected, -⟩ := fetch_eq_ok_iff.mp fetched
  rw [← rowStatement_eq] at prepared
  by_cases constrained : query.constraints = []
  · have same : query.only [] = query := by rw [Query.only, ← constrained]
    refine ⟨db, r, isDatabase, bind_eq_ok_iff.mpr ⟨s, by rw [same, prepared], selected⟩, ?_⟩
    intro ks within
    rw [constrained, List.subset_nil] at within
    subst within
    rw [same]
    simpa using fetch_of_selected isDatabase prepared selected
  · obtain ⟨source, joins, first, others, s₀, cs, base, areConditions⟩ :=
      base_of_rowStatement stand stands constrained prepared
    obtain ⟨s', prepared', plain⟩ := base.rowStatement_only areConditions
    obtain rfl : s = s' := Except.ok.inj (prepared.symm.trans prepared')
    rw [← selected_plain, plain, selected_condition, base.eq_always] at selected
    obtain ⟨r₀, isBase, -⟩ := map_eq_ok_iff.mp selected
    obtain ⟨s', prepared', selected'⟩ := base.selected_only isBase .nil
    refine ⟨db, r₀, isDatabase, bind_eq_ok_iff.mpr ⟨s', prepared', ?_⟩, fun ks within => ?_⟩
    · simpa using selected'
    · obtain ⟨cs', areThese⟩ := @exists_forall₂ _ _ ks
        (IsCondition query.table (frame first others)) fun k member =>
          have ⟨x, _, isCondition⟩ := exists_of_forall₂ areConditions (within member)
          ⟨x, isCondition⟩
      obtain ⟨s', prepared', selected'⟩ := base.selected_only isBase areThese
      exact fetch_of_selected isDatabase prepared' selected'

/-- Constraints narrow a query: its rows are those of the query without constraints that meet each one
of them. So more constraints take rows away and add none, and their order changes nothing. -/
theorem constraints_narrow (stand : JoinsStand query) (stands : ∀ k ∈ query.constraints, StandsAlone k)
    (fetched : (fetch query c).1 = .ok records) :
    (∃ db r, c.database = .ok db ∧ (rowStatement db (query.only []) >>= db.selected) = .ok r ∧
      ∀ ks ⊆ query.constraints, (fetch (query.only ks) c).1 =
        .ok ((r.rows.filter fun row => ks.all (meets db query row)).map (recordIn r query.table))) ∧
    (∀ ks ks', ks ⊆ ks' → ks' ⊆ query.constraints → ∃ more fewer, (fetch (query.only ks) c).1 = .ok more ∧
      (fetch (query.only ks') c).1 = .ok fewer ∧ fewer.Sublist more) ∧
    ∀ ks, ks.Perm query.constraints → (fetch (query.only ks) c).1 = .ok records := by
  obtain ⟨db, r, isDatabase, isBase, filters⟩ := fetch_only_filters stand stands fetched
  refine ⟨⟨db, r, isDatabase, isBase, filters⟩, fun ks ks' fewer within => ?_, fun ks perm => ?_⟩
  · refine ⟨_, _, filters ks (List.Subset.trans fewer within), filters ks' within, ?_⟩
    refine (List.monotone_filter_right _ fun row met => ?_).map _
    rw [List.all_eq_true] at met ⊢
    exact fun k member => met k (fewer member)
  · have same : query.only query.constraints = query := rfl
    have all := filters query.constraints (List.Subset.refl _)
    rw [same, fetched] at all
    rw [filters ks perm.subset, all]
    simp only [perm.all_eq]

/-- A fragment that is read to its end is a whole expression. -/
theorem whole_of_readsAll {fragment : String}
    (readsAll : (expression (tokensOf fragment)).toOption.any (·.2.isEmpty) = true) :
    ∃ e, expression (tokensOf fragment) = .ok (e, []) := by
  cases read : expression (tokensOf fragment) with
  | error fault => simp [read, Except.toOption] at readsAll
  | ok result =>
    obtain ⟨e, left⟩ := result
    obtain rfl : left = [] := by simpa [read, Except.toOption] using readsAll
    exact ⟨e, rfl⟩

/-- The first item, with those tags that its price or the tag itself picks out. -/
def pickedItems : Query :=
  taggedItems.constrain [.sql "price > 5 OR tag = 'red'", .equals "id" (.integer 1)]

/-- One of the two tags of the first item picks it out, whichever constraint comes first. -/
theorem pickedItems_narrow :
    (∃ records, (backend.fetch pickedItems (shop "price")).1 = .ok records ∧ records.length = 1 ∧
      (backend.fetch (pickedItems.only pickedItems.constraints.reverse) (shop "price")).1 =
        .ok records) ∧
    ∃ more fewer, (backend.fetch (pickedItems.only []) (shop "price")).1 = .ok more ∧
      (backend.fetch pickedItems (shop "price")).1 = .ok fewer ∧ fewer.Sublist more := by
  have fetched : (fetch pickedItems (shop "price")).1 =
      .ok [[("id", .integer 1), ("price", .integer 5)]] :=
    ok_of_toOption (by decide +kernel)
  have stand : JoinsStand pickedItems :=
    ⟨by decide +kernel, by decide +kernel, by decide +kernel, by decide +kernel, by decide +kernel⟩
  have stands : ∀ k ∈ pickedItems.constraints, StandsAlone k := by
    intro k member
    obtain rfl | rfl : k = .sql "price > 5 OR tag = 'red'" ∨ k = .equals "id" (.integer 1) := by
      simpa [pickedItems, taggedItems, Query.constrain, Query.addJoins, Query.all] using member
    · exact ⟨by decide +kernel, by decide +kernel, whole_of_readsAll (by decide +kernel)⟩
    · exact ⟨by decide, by decide⟩
  obtain ⟨-, narrower, reordered⟩ := constraints_narrow stand stands fetched
  refine ⟨⟨_, fetched, rfl, reordered _ (List.reverse_perm _)⟩, ?_⟩
  exact narrower [] pickedItems.constraints (List.nil_subset _) (List.Subset.refl _)

/-- The items under some constraints, with some clauses after their table. -/
def itemsWith (clauses : List String) (constraints : List Constraint) : Query :=
  ((Query.all "items").addJoins clauses).constrain constraints

/-- A comment at the end of a fragment goes on with the fragment after it: of two whole expressions
the second one alone is met by one item, and both together by two. A comment or a NUL in a join takes
the constraints away. A place in a fragment or in a join takes the value of a constraint, and without
that one there is no statement. -/
theorem not_narrowed_of_comment_or_place :
    ((∃ e, expression (tokensOf "price > 6 --") = .ok (e, [])) ∧
      (∃ e, expression (tokensOf "0\nOR price < 6") = .ok (e, [])) ∧
      ∃ fewer more, (backend.fetch (itemsWith [] [.sql "0\nOR price < 6"]) (shop "price")).1 = .ok fewer ∧
        (backend.fetch (itemsWith [] [.sql "price > 6 --", .sql "0\nOR price < 6"]) (shop "price")).1 =
          .ok more ∧ fewer.length = 1 ∧ more.length = 2) ∧
    (∀ clause ∈ ["--", "\x00"], ∃ fewer more,
      (backend.fetch (itemsWith [] [.sql "price > 6"]) (shop "price")).1 = .ok fewer ∧
        (backend.fetch (itemsWith [clause] [.sql "price > 6"]) (shop "price")).1 = .ok more ∧
        fewer.length = 1 ∧ more.length = 3) ∧
    ((∃ e, expression (tokensOf "price > ?1") = .ok (e, [])) ∧
      (∃ records, (backend.fetch (itemsWith [] [.sql "price > ?1", .equals "id" (.integer 1)])
        (shop "price")).1 = .ok records ∧ records.length = 1) ∧
      ∀ records, (backend.fetch (itemsWith [] [.sql "price > ?1"]) (shop "price")).1 ≠ .ok records) ∧
    (∃ records, (backend.fetch (itemsWith ["INNER JOIN tags ON tags.item = ?1"]
        [.equals "id" (.integer 1)]) (shop "price")).1 = .ok records ∧ records.length = 2) ∧
      ∀ records, (backend.fetch (itemsWith ["INNER JOIN tags ON tags.item = ?1"] [])
        (shop "price")).1 ≠ .ok records := by
  have shows (clauses : List String) (ks : List Constraint) {n : Nat} (number :
      (backend.fetch (itemsWith clauses ks) (shop "price")).1.toOption.map List.length = some n) :
      ∃ records, (backend.fetch (itemsWith clauses ks) (shop "price")).1 = .ok records ∧
        records.length = n := by
    obtain ⟨records, shown, length⟩ := Option.map_eq_some_iff.mp number
    exact ⟨records, ok_of_toOption shown, length⟩
  have refuses {clauses : List String} {ks : List Constraint}
      (none : (backend.fetch (itemsWith clauses ks) (shop "price")).1.toOption.isNone)
      (records : List Record) :
      (backend.fetch (itemsWith clauses ks) (shop "price")).1 ≠ .ok records := by
    intro shown
    simp [shown, Except.toOption] at none
  refine ⟨⟨whole_of_readsAll (by decide +kernel), whole_of_readsAll (by decide +kernel), ?_⟩, ?_,
    ⟨whole_of_readsAll (by decide +kernel), shows _ _ (by decide +kernel), refuses (by decide +kernel)⟩,
    shows _ _ (by decide +kernel), refuses (by decide +kernel)⟩
  · obtain ⟨fewer, shown, one⟩ := @shows [] [.sql "0\nOR price < 6"] 1 (by decide +kernel)
    obtain ⟨more, shown', two⟩ := @shows [] [.sql "price > 6 --", .sql "0\nOR price < 6"] 2
      (by decide +kernel)
    exact ⟨fewer, more, shown, shown', one, two⟩
  · intro clause member
    obtain ⟨fewer, shown, one⟩ := @shows [] [.sql "price > 6"] 1 (by decide +kernel)
    obtain ⟨more, shown', three⟩ : ∃ records, (backend.fetch (itemsWith [clause] [.sql "price > 6"])
        (shop "price")).1 = .ok records ∧ records.length = 3 := by
      obtain rfl | rfl : clause = "--" ∨ clause = "\x00" := by simpa using member
      all_goals exact shows _ _ (by decide +kernel)
    exact ⟨fewer, more, shown, shown', one, three⟩

end Connection

end Statbook.Sqlite
