import Statbook.Proofs.Sqlite.Constraints

/-!
# Which constraints are refused

No test is read off a constraint that is no condition: a column with too many parts leaves a dot
behind, and where a NUL cuts a name off, or a fragment starts like a query, reading fails.
-/

namespace Statbook.Sqlite

open Token Reading

variable {table column : String} {k : Constraint} {taken fuel most : Nat} {t d : Token}
  {ts us : List Token} {a : Unresolved} {rest : List Char} {parts : List String}

/-- Tokens that start with a dot. Nothing but a column goes on with them. -/
def Dotted (ts : List Token) : Prop :=
  ts.head?.map Token.lexeme = some (.mark .dot)

/-- Tokens off which no test is read, unless a dot is left. -/
def Refuses (ts : List Token) : Prop :=
  ∀ largest fuel a us, 8 * ts.length + 3 ≤ fuel →
    negation fuel (numberParameters largest ts) = .ok (a, us) → Dotted us

theorem Dotted.exists_cons (dotted : Dotted us) : ∃ t ts, us = t :: ts ∧ t.lexeme = .mark .dot := by
  cases us with
  | nil => cases dotted
  | cons t ts => exact ⟨t, ts, rfl, Option.some.inj dotted⟩

theorem Dotted.afterWord? (dotted : Dotted us) (keyword : String) : afterWord? keyword us = none := by
  obtain ⟨t, ts, rfl, isDot⟩ := dotted.exists_cons
  simp [Reading.afterWord?, word?, isDot]

theorem Dotted.moreOrdered (dotted : Dotted us) (fuel : Nat) (a : Unresolved) :
    moreOrdered (fuel + 1) a us = .ok (a, us) := by
  obtain ⟨t, ts, rfl, isDot⟩ := dotted.exists_cons
  rw [Reading.moreOrdered]
  simp only [orderTest?, isDot]

theorem Dotted.moreTests (dotted : Dotted us) (fuel : Nat) (a : Unresolved) :
    moreTests (fuel + 1) a us = .ok (a, us) := by
  obtain ⟨t, ts, rfl, isDot⟩ := dotted.exists_cons
  rw [Reading.moreTests]
  simp only [equalityTest?, word?, isDot]

/-- What leaves a dot behind as an operand leaves it behind as a test. -/
theorem refuses_of_operand
    (refused : ∀ largest fuel a us, 8 * ts.length ≤ fuel →
      operand (fuel + 1) (numberParameters largest ts) = .ok (a, us) → Dotted us)
    (noNot : ∀ largest, afterWord? "not" (numberParameters largest ts) = none) : Refuses ts := by
  intro largest fuel a us enough taken
  obtain ⟨fuel, rfl⟩ : ∃ n, fuel = n + 3 := ⟨fuel - 3, by omega⟩
  simp only [negation, noNot] at taken
  obtain ⟨⟨b, vs⟩, isOrdered, isTest⟩ := bind_eq_ok_iff.mp taken
  simp only [ordered] at isOrdered
  obtain ⟨⟨c, ws⟩, isOperand, isMore⟩ := bind_eq_ok_iff.mp isOrdered
  have dotted := refused largest fuel c ws (by omega) isOperand
  dsimp only at isTest isMore
  rw [dotted.moreOrdered] at isMore
  cases isMore
  rw [dotted.moreTests] at isTest
  cases isTest
  exact dotted

/-- The front of a column that is cut off, or of which a part is left after so many more. -/
inductive Overlong : (most : Nat) → List Token → Prop
  | cut {most : Nat} {t : Token} {ts : List Token} : t.lexeme = .unknown → Overlong most (t :: ts)
  | long {t d : Token} {ts : List Token} {part : String} : t.lexeme = .name part true →
    d.lexeme = .mark .dot → Overlong 0 (t :: d :: ts)
  | more {most : Nat} {t d : Token} {ts : List Token} {part : String} :
    t.lexeme = .name part true → d.lexeme = .mark .dot → Overlong most ts →
    Overlong (most + 1) (t :: d :: ts)

theorem Overlong.numbered (overlong : Overlong most ts) (largest : Nat) :
    Overlong most (numberParameters largest ts) := by
  induction overlong generalizing largest with
  | cut isUnknown =>
    simp only [numberParameters, isUnknown]
    exact .cut isUnknown
  | long isName isDot =>
    simp only [numberParameters, isName, isDot]
    exact .long isName isDot
  | more isName isDot _ ih =>
    simp only [numberParameters, isName, isDot]
    exact .more isName isDot (ih largest)

theorem name_of_unknown (isUnknown : t.lexeme = .unknown) (ts : List Token) :
    name (t :: ts) = fail (t :: ts) := by
  simp [name, name?, isUnknown]

theorem Overlong.dottedNames (overlong : Overlong most ts) (isDot : d.lexeme = .mark .dot)
    (taken : dottedNames (most + 1) (d :: ts) = .ok (parts, us)) : Dotted us := by
  induction overlong generalizing d parts with
  | cut isUnknown =>
    simp only [Reading.dottedNames, afterMark?, isDot, if_true, name_of_unknown isUnknown] at taken
    cases taken
  | long isName isDot' =>
    rw [dottedNames_cons isDot isName] at taken
    cases taken
    exact congrArg some isDot'
  | more isName isDot' _ ih =>
    rw [dottedNames_cons isDot isName] at taken
    obtain ⟨⟨others, vs⟩, areOthers, same⟩ := bind_eq_ok_iff.mp taken
    cases same
    exact ih isDot' areOthers

theorem Overlong.operand (overlong : Overlong 2 ts)
    (taken : operand (fuel + 1) ts = .ok (a, us)) : Dotted us := by
  cases overlong with
  | cut isUnknown =>
    rw [operand_other (by simp [isUnknown]), if_neg (by simp [word?, isUnknown])] at taken
    exact absurd taken (atom_of_blocks (.inl isUnknown))
  | more isName isDot overlong =>
    rw [operand_name isName] at taken
    obtain ⟨⟨others, vs⟩, areOthers, same⟩ := bind_eq_ok_iff.mp taken
    cases same
    exact overlong.dottedNames isDot areOthers

theorem Overlong.afterWord? (overlong : Overlong most ts) (keyword : String) :
    afterWord? keyword ts = none := by
  cases overlong with
  | cut isUnknown => simp [Reading.afterWord?, word?, isUnknown]
  | long isName | more isName => simp [Reading.afterWord?, word?, isName]

theorem Overlong.refuses (overlong : Overlong 2 ts) : Refuses ts :=
  refuses_of_operand (fun largest _ _ _ _ taken => (overlong.numbered largest).operand taken)
    fun largest => (overlong.numbered largest).afterWord? "not"

/-- A name that a NUL cuts off is no token. -/
theorem lex_cut {name : String} (cut : nul ∈ name.toList) (rest : List Char) :
    ∃ t, t.lexeme = .unknown ∧ lex (beforeNul ((Sql.quoteIdent name).toList ++ rest)) = [t] := by
  have text : beforeNul ((Sql.quoteIdent name).toList ++ rest) =
      '"' :: Text.replaceChar '"' ['"', '"'] (beforeNul name.toList) := by
    calc beforeNul ((Sql.quoteIdent name).toList ++ rest)
      _ = beforeNul (['"'] ++ (Text.replaceChar '"' ['"', '"'] name.toList ++ ('"' :: rest))) := by
        simp [Sql.quoteIdent, Sql.enclose]
      _ = _ := by
        rw [beforeNul_append (by decide), Connection.beforeNul_replaceChar (by decide) cut]
        rfl
  rw [text, lex_unclosed]
  exact ⟨_, rfl, rfl⟩

/-- A NUL in a later part of a column does not cut off the parts before it. -/
theorem beforeNul_columnChars_cons {part : String} (noNul : nul ∉ part.toList) (next : String)
    (parts : List String) (rest : List Char) :
    beforeNul (columnChars (part :: next :: parts) ++ rest) =
      (Sql.quoteIdent part).toList ++ '.' :: beforeNul (columnChars (next :: parts) ++ rest) := by
  have whole : columnChars (part :: next :: parts) ++ rest =
      ((Sql.quoteIdent part).toList ++ ['.']) ++ (columnChars (next :: parts) ++ rest) := by
    simp [columnChars, Text.joinChars]
  have front : nul ∉ (Sql.quoteIdent part).toList ++ ['.'] := by
    rw [List.mem_append]
    exact not_or_intro (nul_notMem_quoteIdent noNul) (by decide)
  rw [whole, beforeNul_append front]
  simp

/-- A column with too many parts, or with a NUL in one of them. -/
theorem overlong_lex (nonempty : parts ≠ [])
    (bad : (∃ part ∈ parts, nul ∈ part.toList) ∨ most + 1 < parts.length) :
    Overlong most (lex (beforeNul (columnChars parts ++ rest))) := by
  induction parts generalizing most with
  | nil => exact absurd rfl nonempty
  | cons part parts ih =>
    obtain ⟨more, split⟩ : ∃ more, columnChars (part :: parts) ++ rest =
        (Sql.quoteIdent part).toList ++ more := by
      cases parts <;> simp [columnChars, Text.joinChars]
    by_cases cut : nul ∈ part.toList
    · obtain ⟨t, isUnknown, tokens⟩ := lex_cut cut more
      rw [split, tokens]
      exact .cut isUnknown
    · cases parts with
      | nil => simp [cut] at bad
      | cons next parts =>
        have onward : (∃ part ∈ next :: parts, nul ∈ part.toList) ∨ most < (next :: parts).length := by
          simpa [cut] using bad
        obtain ⟨more, start⟩ := exists_columnChars_eq_cons next parts
        have digit : ∀ c ∈ (beforeNul (columnChars (next :: parts) ++ rest)).head?,
            Decimal.isDigit c = false := by
          intro c first
          have kept : beforeNul ('"' :: (more ++ rest)) = '"' :: beforeNul (more ++ rest) :=
            @beforeNul_append ['"'] (by decide) (more ++ rest)
          rw [start, List.cons_append, kept] at first
          cases first
          rfl
        rw [beforeNul_columnChars_cons cut, lex_quoteIdent part (by simp), lex_dot digit]
        cases most with
        | zero => exact .long rfl rfl
        | succ most => exact .more rfl rfl (ih (List.cons_ne_nil _ _) (onward.imp_right id))

/-- The star is the only expression without a blank and a parenthesis. -/
theorem qualifyColumn_star (plain : ' ' ∉ column.toList ∧ '(' ∉ column.toList)
    (expression : Sql.isExpression column) : (Sql.qualifyColumn table column).toList = ['*'] := by
  obtain rfl : column = "*" := by simpa [Sql.isExpression, plain] using expression
  rw [Sql.qualifyColumn, if_pos expression]
  decide

theorem refuses_star (isStar : t.lexeme = .mark .star) (ts : List Token) : Refuses (t :: ts) := by
  have numbered (largest : Nat) :
      numberParameters largest (t :: ts) = t :: numberParameters largest ts := by
    simp only [numberParameters, isStar]
  refine refuses_of_operand (fun largest fuel a us _ taken => ?_) fun largest => ?_
  · rw [numbered, operand_other (by simp [isStar]), if_neg (by simp [word?, isStar])] at taken
    simp [atom, isStar, word?, isWordOf, columnName, name, name?, fail, bind, Except.bind,
      Except.map] at taken
  · simp [numbered, afterWord?, word?, isStar]

theorem refuses_comparison (whole : nul ∉ table.toList) (compares : comparedColumn? k = some column)
    (plain : ' ' ∉ column.toList ∧ '(' ∉ column.toList) (bad : conditionOf? table k = none) :
    Refuses (lex (beforeNul (Sql.boundChars (taken + 1) (k.pieces table) ++ rest))) := by
  rw [conditionOf?_comparison compares, Option.map_eq_none_iff] at bad
  rw [boundChars_pieces compares, List.append_assoc]
  by_cases expression : Sql.isExpression column
  · rw [qualifyColumn_star plain expression, beforeNul_append (by decide), List.singleton_append,
      @lex_mark '*' .star _ (by simp)]
    exact refuses_star rfl _
  · have long : nul ∈ column.toList ∨ 3 < (columnParts table column).length := by
      simpa [columnOf?, expression, Classical.or_iff_not_imp_left] using bad
    have two := two_le_length_columnParts table column
    have nonempty : columnParts table column ≠ [] := by
      intro none
      simp [none] at two
    rw [qualifyColumn_toList (Bool.not_eq_true _ ▸ expression)]
    exact (overlong_lex nonempty (long.imp_left (nul_mem_columnParts whole).mpr)).refuses

theorem refuses_query (isOpening : t.lexeme = .mark .opening)
    (query : ts.head?.any (isWordOf queryWords)) : Refuses (t :: ts) := by
  have numbered (largest : Nat) :
      numberParameters largest (t :: ts) = t :: numberParameters largest ts := by
    simp only [numberParameters, isOpening]
  refine refuses_of_operand (fun largest fuel a us _ taken => ?_) fun largest => ?_
  · have query' : (numberParameters largest ts).head?.any (isWordOf queryWords) := by
      cases ts with
      | nil => cases query
      | cons u ts =>
        rw [List.head?_cons, Option.any_some] at query
        unfold numberParameters
        split
        · exact query
        · rename_i lexeme
          simp [isWordOf, word?, lexeme] at query
        · exact query
    rw [numbered, operand] at taken
    simp only [isOpening, query', if_true] at taken
    cases taken
  · simp [numbered, afterWord?, word?, isOpening]

/-- An opening parenthesis with nothing to close it. -/
theorem refuses_unclosed (isOpening : t.lexeme = .mark .opening)
    (noPlace : ∀ u ∈ ts, u.isPlace = false) {e : Unresolved} (alone : expression ts = .ok (e, [])) :
    Refuses (t :: ts) := by
  have numbered (largest : Nat) : numberParameters largest (t :: ts) = t :: ts := by
    refine numberParameters_eq (fun u member => ?_) largest
    obtain rfl | member := List.mem_cons.mp member
    · simp [isOpening]
    · exact parameter_ne (noPlace u member) none
  refine refuses_of_operand (fun largest fuel a us enough taken => ?_) fun largest => ?_
  · have ends : Ends [] [] := ⟨fun t first => (by cases first), fun t first => (by cases first)⟩
    have along := @alongside_of_same ts ts [] [] [] [] noPlace
      (List.forall₂_same.mpr fun _ _ => ⟨rfl, rfl⟩)
    rw [List.append_nil] at along
    obtain ⟨-, e', us', -, along', again⟩ := (carried ends _).disjunction alone along
    cases along'
    have inside := again fuel (by simp only [List.length_cons] at enough ⊢; omega)
    rw [numbered, operand] at taken
    simp only [isOpening] at taken
    split at taken
    · cases taken
    · rw [inside] at taken
      cases taken
  · simp [numbered, afterWord?, word?, isOpening]

theorem beforeNul_append_of_mem {cs : List Char} (cut : nul ∈ cs) (ds : List Char) :
    beforeNul (cs ++ ds) = beforeNul cs := by
  induction cs with
  | nil => cases cut
  | cons c cs ih =>
    by_cases ends : c = nul
    · simp [beforeNul, ends]
    · have later : nul ∈ cs := (List.mem_cons.mp cut).resolve_left (Ne.symm ends)
      simpa [beforeNul, ends] using ih later

/-- A fragment is refused that a NUL cuts off or that starts like a query. -/
theorem refuses_fragment {fragment : String} (stands : StandsAlone (.sql fragment))
    (bad : conditionOf? table (.sql fragment) = none) (rest : List Char) :
    Refuses (lex (beforeNul (Sql.boundChars (taken + 1)
      ((Constraint.sql fragment).pieces table) ++ rest))) := by
  obtain ⟨closed, noPlace, e, alone⟩ := stands
  have tokens := tokensOf_eq noPlace
  rw [tokens] at noPlace alone
  rw [boundChars_fragment, ← List.singleton_append, List.append_assoc, beforeNul_append (by decide),
    List.append_assoc]
  by_cases cut : nul ∈ fragment.toList
  · rw [beforeNul_append_of_mem cut, List.singleton_append, @lex_mark '(' .opening _ (by simp)]
    exact refuses_unclosed rfl noPlace alone
  · have marks : nul ∉ fragment.toList ++ [')'] := by
      rw [List.mem_append]
      exact not_or_intro cut (by decide)
    rw [beforeNul_eq cut] at closed alone
    have query : (lex fragment.toList).head?.any (isWordOf queryWords) := by
      simpa [conditionOf?, cut, alone, Except.toOption] using bad
    obtain ⟨ts, same, tokens⟩ := lex_append_of_closed closed (.inr rfl) (beforeNul rest)
    rw [← List.append_assoc, beforeNul_append marks, List.append_assoc, List.singleton_append,
      List.singleton_append, @lex_mark '(' .opening _ (by simp), tokens]
    refine refuses_query rfl ?_
    cases kept : lex fragment.toList with
    | nil =>
      rw [kept] at query
      cases query
    | cons u us =>
      rw [kept] at same query
      cases same with
      | cons first _ => simpa [first.isWordOf] using query

/-- A constraint that stands for itself is a condition, or it is refused. -/
theorem refuses_constraint (whole : nul ∉ table.toList) (stands : StandsAlone k)
    (bad : conditionOf? table k = none) (rest : List Char) :
    Refuses (lex (beforeNul (Sql.boundChars (taken + 1) (k.pieces table) ++ rest))) := by
  cases k with
  | sql fragment => exact refuses_fragment stands bad rest
  | equals column value => exact refuses_comparison whole rfl stands bad
  | oneOf column given =>
    cases given with
    | nil => cases bad
    | cons value given => exact refuses_comparison whole rfl stands bad
  | between column first last => exact refuses_comparison whole rfl stands bad

end Statbook.Sqlite
