import Statbook.Proofs.Sqlite.Refused

/-!
# Constraints that are joined

Constraints with `AND` between them are read as the conditions that they are, one after another. If
one of them is refused, so are they together.
-/

namespace Statbook.Sqlite

open Token Reading

variable {table : String} {k : Constraint} {ks : List Constraint} {taken fuel : Nat}
  {ts us : List Token} {a e : Unresolved} {join : Unresolved → Unresolved} {es : List Unresolved} {rest : List Char}

/-- What follows a constraint: `AND` and the next one, and so on. -/
def laterChars (table : String) : (taken : Nat) → List Constraint → List Char
  | _, [] => []
  | taken, k :: ks => " AND ".toList ++
    (Sql.boundChars (taken + 1) (k.pieces table) ++ laterChars table (taken + k.values.length) ks)

theorem boundChars_conditions (k : Constraint) (ks : List Constraint) (taken : Nat) :
    Sql.boundChars (taken + 1) (Sql.joinPieces " AND " ((k :: ks).map (Constraint.pieces table))) =
      Sql.boundChars (taken + 1) (k.pieces table) ++ laterChars table (taken + k.values.length) ks := by
  induction ks generalizing k taken with
  | nil => simp [Sql.joinPieces, laterChars]
  | cons next ks ih =>
    rw [List.map_cons, List.map_cons, Sql.joinPieces_cons_cons, Sql.boundChars_append,
      k.values_pieces, ← List.map_cons, Nat.add_right_comm]
    show _ ++ (" AND ".toList ++ Sql.boundChars (taken + k.values.length + 1) _) = _
    rw [ih]
    rfl

/-- Neither a blank nor a NUL stands at the front of a constraint. -/
theorem head?_constraint (stands : StandsAlone k) (next : Nat) :
    ∃ c cs, Sql.boundChars next (k.pieces table) = c :: cs ∧ isSpace c = false ∧ c ≠ nul := by
  have column {column test : String} {pieces : List Sql.Piece}
      (plain : ' ' ∉ column.toList ∧ '(' ∉ column.toList) :
      ∃ c cs, Sql.boundChars next (.text (Sql.qualifyColumn table column ++ test) :: pieces) =
        c :: cs ∧ isSpace c = false ∧ c ≠ nul := by
    rw [boundChars_text]
    by_cases expression : Sql.isExpression column
    · rw [qualifyColumn_star plain expression]
      exact ⟨'*', _, rfl, rfl, by decide⟩
    · rw [qualifyColumn_toList (Bool.not_eq_true _ ▸ expression)]
      obtain ⟨part, parts, split⟩ := List.exists_cons_of_length_pos
        (Nat.lt_of_lt_of_le Nat.two_pos (two_le_length_columnParts table column))
      obtain ⟨cs, start⟩ := exists_columnChars_eq_cons part parts
      rw [split, start]
      exact ⟨'"', _, rfl, rfl, by decide⟩
  cases k with
  | sql fragment =>
    rw [boundChars_fragment]
    exact ⟨'(', _, rfl, rfl, by decide⟩
  | equals name value => cases value <;> exact column stands
  | oneOf name given =>
    cases given with
    | nil => exact ⟨'1', ['=', '0'], rfl, rfl, by decide⟩
    | cons value given => exact column stands
  | between name first last => exact column stands

/-- A word between blanks in front of a constraint. -/
theorem lex_introduced {word : String} (closed : endsOpen (' ' :: word.toList) = false)
    (isWord : (lex (' ' :: word.toList)).map Token.lexeme = [.word word]) (noNul : nul ∉ word.toList)
    (stands : StandsAlone k) (next : Nat) (rest : List Char) :
    ∃ t, t.lexeme = .word word ∧
      lex (beforeNul (' ' :: word.toList ++ ' ' :: (Sql.boundChars next (k.pieces table) ++ rest))) =
        t :: lex (beforeNul (Sql.boundChars next (k.pieces table) ++ rest)) := by
  obtain ⟨c, cs, start, space, first⟩ := @head?_constraint table k stands next
  have kept (ds : List Char) (cut : nul ∉ ds) :
      beforeNul (ds ++ (c :: cs ++ rest)) = ds ++ c :: beforeNul (cs ++ rest) := by
    rw [beforeNul_append cut]
    simp [beforeNul, first]
  have blanks : nul ∉ ' ' :: word.toList ++ [' '] := by
    simp only [List.mem_append, List.mem_cons, List.not_mem_nil, or_false, noNul]
    decide
  have front := kept _ blanks
  rw [List.append_assoc, List.append_assoc, List.singleton_append, List.singleton_append] at front
  have back := kept [] (by simp)
  rw [List.nil_append, List.nil_append] at back
  obtain ⟨ts, tokens, kinds⟩ := @spells_closed (' ' :: word.toList)
    (' ' :: c :: beforeNul (cs ++ rest)) _ closed isWord (by simp)
  obtain ⟨t, ts, rfl, isFirst, nothing⟩ := List.map_eq_cons_iff.mp kinds
  obtain rfl := List.map_eq_nil_iff.mp nothing
  rw [start, front, back, tokens, lex_blank_cons space]
  exact ⟨t, isFirst, rfl⟩

/-- The word between two constraints. -/
theorem lex_and (stands : StandsAlone k) (next : Nat) (rest : List Char) :
    ∃ and, and.lexeme = .word "AND" ∧
      lex (beforeNul (" AND ".toList ++ (Sql.boundChars next (k.pieces table) ++ rest))) =
        and :: lex (beforeNul (Sql.boundChars next (k.pieces table) ++ rest)) :=
  lex_introduced (by decide +kernel) (by decide +kernel) (by decide) stands next rest

/-- The word in front of all constraints. -/
theorem lex_where (stands : StandsAlone k) (next : Nat) (rest : List Char) :
    ∃ t, t.lexeme = .word "WHERE" ∧
      lex (beforeNul (" WHERE ".toList ++ (Sql.boundChars next (k.pieces table) ++ rest))) =
        t :: lex (beforeNul (Sql.boundChars next (k.pieces table) ++ rest)) :=
  lex_introduced (by decide +kernel) (by decide +kernel) (by decide) stands next rest

theorem head?_laterChars (taken : Nat) (ks : List Constraint) :
    ∀ c ∈ (beforeNul (laterChars table taken ks)).head?, c = ' ' := by
  intro c first
  cases ks with
  | nil => cases first
  | cons k ks =>
    rw [laterChars, beforeNul_append (by decide)] at first
    cases first
    rfl

theorem word?_and {and : Token} (isAnd : and.lexeme = .word "AND") : word? and = some "and" := by
  have spelled : "AND".toLower = "and" := by decide +kernel
  simp [word?, isAnd, spelled]

theorem numberParameters_and {and : Token} (isAnd : and.lexeme = .word "AND") (largest : Nat) :
    numberParameters largest (and :: ts) = and :: numberParameters largest ts := by
  simp only [numberParameters, isAnd]

/-- What follows a constraint does not go on with it. -/
theorem stops_later (stands : ∀ k ∈ ks, StandsAlone k) (taken largest : Nat) :
    Stops 2 (numberParameters largest (lex (beforeNul (laterChars table taken ks)))) := by
  cases ks with
  | nil => exact stops_nil 2
  | cons k ks =>
    obtain ⟨and, isAnd, tokens⟩ := @lex_and table k (stands k List.mem_cons_self) (taken + 1)
      (laterChars table (taken + k.values.length) ks)
    rw [laterChars, tokens, numberParameters_and isAnd]
    refine stops_cons.mpr ?_
    rw [tier_and (word?_and isAnd)]
    decide

theorem Dotted.moreConjuncts (dotted : Dotted us) (fuel : Nat) (a : Unresolved) :
    moreConjuncts (fuel + 1) a us = .ok (a, us) := by
  simp only [Reading.moreConjuncts, dotted.afterWord? "and"]

theorem moreConjuncts_and {and : Token} (isAnd : and.lexeme = .word "AND") (fuel : Nat)
    (a : Unresolved) (ts : List Token) : moreConjuncts (fuel + 1) a (and :: ts) =
      negation fuel ts >>= fun (b, ts) => moreConjuncts fuel (.and a b) ts := by
  simp only [moreConjuncts, afterWord?, word?_and isAnd, if_true]

/-- The test that a condition is, read with the constraints that follow it. -/
theorem Conveys.negation {k : Constraint} (conveys : Conveys taken k e ts)
    (ends : Stops 2 us) (enough : 8 * (ts ++ us).length + 3 ≤ fuel) :
    ∃ b, negation fuel (ts ++ us) = .ok (b, us) := by
  have stored : k.values.map Cell.ofSqlValue <+:
      (List.replicate taken Cell.null ++ k.values.map Cell.ofSqlValue).drop taken := by
    simp
  obtain ⟨b, read, -⟩ := conveys.read stored ends fuel enough
  exact ⟨b, read⟩

theorem Conveys.numbered (conveys : Conveys taken k e ts) : ∀ t ∈ ts, t.lexeme ≠ .parameter none :=
  fun _ member lexeme => conveys.takes.numbered (lexeme ▸ List.mem_map_of_mem member)

theorem length_numberParameters (largest : Nat) (ts : List Token) :
    (numberParameters largest ts).length = ts.length := by
  induction ts generalizing largest with
  | nil => rfl
  | cons t ts ih =>
    unfold numberParameters
    split <;> simp [ih]

/-- Whether what follows a constraint is refused. -/
def RefusesLater (table : String) (taken : Nat) (ks : List Constraint) : Prop :=
  ∀ largest fuel a e us, 8 * (lex (beforeNul (laterChars table taken ks))).length + 1 ≤ fuel →
    moreConjuncts fuel a
      (numberParameters largest (lex (beforeNul (laterChars table taken ks)))) = .ok (e, us) → Dotted us

/-- Constraints are refused if the first one is, or what follows it. -/
theorem dotted_of_refused (whole : nul ∉ table.toList) (stands : ∀ k' ∈ k :: ks, StandsAlone k')
    (bad : ∃ k' ∈ k :: ks, conditionOf? table k' = none)
    (refused : (∃ k' ∈ ks, conditionOf? table k' = none) →
      RefusesLater table (taken + k.values.length) ks) {largest : Nat}
    (enough : 8 * (lex (beforeNul (Sql.boundChars (taken + 1) (k.pieces table) ++
      laterChars table (taken + k.values.length) ks))).length + 3 ≤ fuel)
    (read : (negation fuel (numberParameters largest (lex (beforeNul
        (Sql.boundChars (taken + 1) (k.pieces table) ++
          laterChars table (taken + k.values.length) ks)))) >>= fun (b, us) =>
      moreConjuncts fuel (join b) us) = .ok (e, us)) : Dotted us := by
  obtain ⟨⟨b, vs⟩, isFirst, isMore⟩ := bind_eq_ok_iff.mp read
  dsimp only at isMore
  cases isCondition : conditionOf? table k with
  | none =>
    have dotted := refuses_constraint whole (stands k List.mem_cons_self) isCondition _ _ _ b vs
      enough isFirst
    obtain ⟨fuel, rfl⟩ : ∃ n, fuel = n + 1 := ⟨fuel - 1, by omega⟩
    rw [dotted.moreConjuncts] at isMore
    cases isMore
    exact dotted
  | some e' =>
    have standOthers := fun k member => stands k (List.mem_cons_of_mem _ member)
    rw [beforeNul_append (nul_notMem_condition whole isCondition _)] at enough isFirst
    obtain ⟨ts, lexed, conveys⟩ := @lex_condition table k taken e' _ (stands k List.mem_cons_self)
      isCondition (@head?_laterChars table (taken + k.values.length) ks)
    obtain ⟨largest', numbered⟩ := numberParameters_numbered conveys.numbered largest
    rw [lexed, numbered] at isFirst
    rw [lexed, List.length_append] at enough
    have stops := @stops_later table ks standOthers (taken + k.values.length) largest'
    obtain ⟨b', read⟩ := @Conveys.negation taken fuel ts _ e' k conveys stops (by
      rw [List.length_append, length_numberParameters]
      omega)
    rw [read] at isFirst
    cases isFirst
    refine refused ?_ _ _ _ _ _ (by omega) isMore
    obtain ⟨k', member, none⟩ := bad
    obtain rfl | later := List.mem_cons.mp member
    · rw [isCondition] at none
      cases none
    · exact ⟨k', later, none⟩

/-- After a constraint that is refused, so is everything. -/
theorem refuses_later (whole : nul ∉ table.toList) (stands : ∀ k ∈ ks, StandsAlone k)
    (bad : ∃ k ∈ ks, conditionOf? table k = none) (taken : Nat) : RefusesLater table taken ks := by
  induction ks generalizing taken with
  | nil =>
    obtain ⟨k, member, -⟩ := bad
    cases member
  | cons k ks ih =>
    intro largest fuel a e us enough read
    obtain ⟨and, isAnd, tokens⟩ := @lex_and table k (stands k List.mem_cons_self) (taken + 1)
      (laterChars table (taken + k.values.length) ks)
    obtain ⟨fuel, rfl⟩ : ∃ n, fuel = n + 1 := ⟨fuel - 1, by omega⟩
    rw [laterChars, tokens, List.length_cons] at enough
    rw [laterChars, tokens, numberParameters_and isAnd, moreConjuncts_and isAnd] at read
    refine dotted_of_refused whole stands bad (fun bad => ?_) (by omega) read
    exact ih (fun k member => stands k (List.mem_cons_of_mem _ member)) bad _

/-- The tokens of constraints that follow one, if all of them are conditions. -/
structure Follow (taken : Nat) (ks : List Constraint) (es : List Unresolved) (ts : List Token) :
    Prop where
  takes : Takes taken (ks.flatMap Constraint.values).length (ts.map Token.lexeme)
  grouped : (∀ t ∈ ts, t.misgrouped? = none) ↔ ∀ k ∈ ks, Grouped k
  read : ∀ {values : List Cell},
    (ks.flatMap Constraint.values).map Cell.ofSqlValue <+: values.drop taken →
    ∀ fuel a, 8 * ts.length + 1 ≤ fuel → ∃ x, moreConjuncts fuel a ts = .ok (x, []) ∧
      x.given values = es.foldl .and (a.given values)

/-- The tokens of constraints from the first one on, if all of them are conditions. -/
structure Lead (taken : Nat) (ks : List Constraint) (e : Unresolved) (es : List Unresolved)
    (ts : List Token) : Prop where
  takes : Takes taken (ks.flatMap Constraint.values).length (ts.map Token.lexeme)
  grouped : (∀ t ∈ ts, t.misgrouped? = none) ↔ ∀ k ∈ ks, Grouped k
  read : ∀ {values : List Cell},
    (ks.flatMap Constraint.values).map Cell.ofSqlValue <+: values.drop taken →
    ∀ fuel, 8 * ts.length + 3 ≤ fuel → ∃ b us, negation fuel ts = .ok (b, us) ∧
      b.given values = e ∧ us.length ≤ ts.length ∧
      ∀ fuel a, 8 * us.length + 1 ≤ fuel → ∃ x, moreConjuncts fuel a us = .ok (x, []) ∧
        x.given values = es.foldl .and (a.given values)

theorem prefix_drop {α : Type} {xs ys zs : List α} {n : Nat} (stored : xs ++ ys <+: zs.drop n) :
    xs <+: zs.drop n ∧ ys <+: zs.drop (n + xs.length) := by
  obtain ⟨more, split⟩ := stored
  refine ⟨⟨ys ++ more, by rw [← split, List.append_assoc]⟩, more, ?_⟩
  rw [← List.drop_drop, ← split, List.append_assoc, List.drop_left]

theorem Follow.numbered (follow : Follow taken ks es ts) : ∀ t ∈ ts, t.lexeme ≠ .parameter none :=
  fun _ member lexeme => follow.takes.numbered (lexeme ▸ List.mem_map_of_mem member)

theorem follow_nil (taken : Nat) : Follow taken [] [] [] where
  takes := takes_plain (by simp) taken
  grouped := by simp
  read _ fuel a enough := by
    obtain ⟨fuel, rfl⟩ : ∃ n, fuel = n + 1 := ⟨fuel - 1, by omega⟩
    exact ⟨a, moreConjuncts_stop (stops_nil 3) fuel a, rfl⟩

/-- A condition in front of others. -/
theorem Conveys.lead (conveys : Conveys taken k e ts)
    (follow : Follow (taken + k.values.length) ks es us) (stops : Stops 2 us) :
    Lead taken (k :: ks) e es (ts ++ us) where
  takes := by
    rw [List.map_append, List.flatMap_cons, List.length_append]
    exact conveys.takes.append follow.takes
  grouped := by
    simp only [List.forall_mem_cons, List.forall_mem_append, conveys.grouped, follow.grouped]
  read stored fuel enough := by
    rw [List.flatMap_cons, List.map_append] at stored
    obtain ⟨storedFirst, storedOthers⟩ := prefix_drop stored
    rw [List.length_map] at storedOthers
    obtain ⟨b, isFirst, given⟩ := conveys.read storedFirst stops fuel enough
    exact ⟨b, us, isFirst, given, by simp, follow.read storedOthers⟩

/-- Conditions with `AND` in front of them. -/
theorem Lead.follow {and : Token} (lead : Lead taken ks e es ts) (isAnd : and.lexeme = .word "AND") :
    Follow taken ks (e :: es) (and :: ts) where
  takes := by
    have word : Takes taken 0 [.word "AND"] := takes_plain (by simp [Lexeme.isPlain]) taken
    have all := word.append lead.takes
    rw [List.map_cons, isAnd]
    rwa [Nat.zero_add] at all
  grouped := by
    have noNumber : and.misgrouped? = none := misgrouped?_eq_none (by simp [isAnd])
    simp only [List.forall_mem_cons, noNumber, true_and, lead.grouped]
  read stored fuel a enough := by
    rw [List.length_cons] at enough
    obtain ⟨fuel, rfl⟩ : ∃ n, fuel = n + 1 := ⟨fuel - 1, by omega⟩
    obtain ⟨b, us, isFirst, given, shorter, more⟩ := lead.read stored fuel (by omega)
    obtain ⟨x, areMore, same⟩ := more fuel (.and a b) (by omega)
    refine ⟨x, ?_, ?_⟩
    · rw [moreConjuncts_and isAnd]
      exact bind_eq_ok_iff.mpr ⟨_, isFirst, areMore⟩
    · rw [same, List.foldl_cons, ← given]
      rfl

theorem nul_notMem_later (whole : nul ∉ table.toList)
    (areConditions : List.Forall₂ (fun k e => conditionOf? table k = some e) ks es) (taken : Nat) :
    nul ∉ laterChars table taken ks := by
  induction areConditions generalizing taken with
  | nil => exact List.not_mem_nil
  | cons isCondition _ ih =>
    rw [laterChars, List.mem_append, List.mem_append]
    exact not_or_intro (by decide) (not_or_intro (nul_notMem_condition whole isCondition _) (ih _))

theorem lead_of_follow (whole : nul ∉ table.toList) (stands : ∀ k' ∈ k :: ks, StandsAlone k')
    (isCondition : conditionOf? table k = some e)
    (areOthers : List.Forall₂ (fun k e => conditionOf? table k = some e) ks es)
    (follow : Follow (taken + k.values.length) ks es
      (lex (laterChars table (taken + k.values.length) ks))) :
    Lead taken (k :: ks) e es (lex (Sql.boundChars (taken + 1) (k.pieces table) ++
      laterChars table (taken + k.values.length) ks)) := by
  have starts := @head?_laterChars table (taken + k.values.length) ks
  have stops := @stops_later table ks (fun k member => stands k (List.mem_cons_of_mem _ member))
    (taken + k.values.length) 0
  rw [beforeNul_eq (nul_notMem_later whole areOthers _)] at starts stops
  rw [numberParameters_eq follow.numbered] at stops
  obtain ⟨ts, lexed, conveys⟩ := lex_condition (stands k List.mem_cons_self) isCondition starts
  rw [lexed]
  exact conveys.lead follow stops

theorem follow_later (whole : nul ∉ table.toList) (stands : ∀ k ∈ ks, StandsAlone k)
    (areConditions : List.Forall₂ (fun k e => conditionOf? table k = some e) ks es) (taken : Nat) :
    Follow taken ks es (lex (laterChars table taken ks)) := by
  induction areConditions generalizing taken with
  | nil => exact follow_nil taken
  | @cons k e ks es isCondition areOthers ih =>
    have others := ih (fun k member => stands k (List.mem_cons_of_mem _ member))
      (taken + k.values.length)
    obtain ⟨and, isAnd, tokens⟩ := @lex_and table k (stands k List.mem_cons_self) (taken + 1)
      (laterChars table (taken + k.values.length) ks)
    rw [beforeNul_append (by decide), beforeNul_append (nul_notMem_condition whole isCondition _),
      beforeNul_eq (nul_notMem_later whole areOthers _)] at tokens
    rw [laterChars, tokens]
    exact (lead_of_follow whole stands isCondition areOthers others).follow isAnd

/-- Conditions joined by `AND`; none of them are met by every row. -/
def allOf : List Unresolved → Unresolved
  | [] => always
  | e :: es => es.foldl .and e

/-- The conditions of a query joined by `AND`. -/
def conditionChars (table : String) (ks : List Constraint) : List Char :=
  Sql.boundChars 1 (Sql.joinPieces " AND " (ks.map (Constraint.pieces table)))

theorem nul_notMem_conditions (whole : nul ∉ table.toList)
    (areConditions : List.Forall₂ (fun k e => conditionOf? table k = some e) ks es) :
    nul ∉ conditionChars table ks := by
  cases areConditions with
  | nil => exact List.not_mem_nil
  | @cons k _ ks _ isCondition areOthers =>
    have chars : conditionChars table (k :: ks) = _ := boundChars_conditions k ks 0
    rw [chars, List.mem_append]
    exact not_or_intro (nul_notMem_condition whole isCondition _) (nul_notMem_later whole areOthers _)

/-- The tokens of constraints that are joined, if all of them are conditions. -/
structure Joined (ks : List Constraint) (es : List Unresolved) (ts : List Token) : Prop where
  takes : Takes 0 (ks.flatMap Constraint.values).length (ts.map Token.lexeme)
  grouped : (∀ t ∈ ts, t.misgrouped? = none) ↔ ∀ k ∈ ks, Grouped k
  read : ∃ e, expression ts = .ok (e, []) ∧
    e.given ((ks.flatMap Constraint.values).map Cell.ofSqlValue) = allOf es

theorem expression_eq (ts : List Token) : expression ts = (do
    let (a, us) ← negation (8 * ts.length + 6) ts
    let (b, us) ← moreConjuncts (8 * ts.length + 6) a us
    moreDisjuncts (8 * ts.length + 7) b us) := by
  show disjunction (8 * ts.length + 6 + 1 + 1) ts = _
  simp only [disjunction, conjunction, bind_assoc]

theorem joined (whole : nul ∉ table.toList) (nonempty : ks ≠ []) (stands : ∀ k ∈ ks, StandsAlone k)
    (areConditions : List.Forall₂ (fun k e => conditionOf? table k = some e) ks es) :
    Joined ks es (lex (conditionChars table ks)) := by
  cases areConditions with
  | nil => exact absurd rfl nonempty
  | @cons k e ks es isCondition areOthers =>
    have others := follow_later whole (fun k member => stands k (List.mem_cons_of_mem _ member))
      areOthers (0 + k.values.length)
    have lead := lead_of_follow whole stands isCondition areOthers others
    rw [← boundChars_conditions] at lead
    change Lead 0 (k :: ks) e es (lex (conditionChars table (k :: ks))) at lead
    generalize lex (conditionChars table (k :: ks)) = ts at lead ⊢
    refine ⟨lead.takes, lead.grouped, ?_⟩
    obtain ⟨b, us, isFirst, given, shorter, more⟩ := lead.read (List.prefix_refl _)
      (8 * ts.length + 6) (by omega)
    obtain ⟨x, areMore, same⟩ := more (8 * ts.length + 6) b (by omega)
    refine ⟨x, ?_, ?_⟩
    · rw [expression_eq]
      refine bind_eq_ok_iff.mpr ⟨_, isFirst, bind_eq_ok_iff.mpr ⟨_, areMore, ?_⟩⟩
      exact moreDisjuncts_stop (stops_nil 4) _ x
    · rw [given] at same
      exact same

/-- If a constraint is refused, so are all of them together. -/
theorem refuses_joined (whole : nul ∉ table.toList) (stands : ∀ k ∈ ks, StandsAlone k)
    (bad : ∃ k ∈ ks, conditionOf? table k = none) (largest : Nat) :
    expression (numberParameters largest (lex (beforeNul (conditionChars table ks)))) ≠ .ok (e, []) := by
  obtain ⟨k, ks, rfl⟩ : ∃ k ks', ks = k :: ks' := by
    obtain ⟨k, member, -⟩ := bad
    exact List.exists_cons_of_ne_nil (List.ne_nil_of_mem member)
  intro read
  have chars : conditionChars table (k :: ks) = _ := boundChars_conditions k ks 0
  rw [chars, expression_eq] at read
  obtain ⟨⟨b, us⟩, isFirst, read⟩ := bind_eq_ok_iff.mp read
  obtain ⟨⟨c, vs⟩, areMore, isLast⟩ := bind_eq_ok_iff.mp read
  rw [length_numberParameters] at isFirst areMore isLast
  have dotted : Dotted vs := @dotted_of_refused table k ks 0 _ vs c id whole stands bad
    (fun bad => refuses_later whole (fun k member => stands k (List.mem_cons_of_mem _ member)) bad _)
    _ (Nat.add_le_add_left (by omega) _) (bind_eq_ok_iff.mpr ⟨_, isFirst, areMore⟩)
  dsimp only at isLast
  rw [moreDisjuncts] at isLast
  simp only [dotted.afterWord? "or"] at isLast
  cases isLast
  cases dotted

end Statbook.Sqlite
