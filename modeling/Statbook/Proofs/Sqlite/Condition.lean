import Statbook.Proofs.Sqlite.Fetched
import Statbook.Proofs.Sqlite.Spelled
import Statbook.Proofs.Sqlite.Tables

/-!
# The condition that a constraint is

A constraint is read as one operand of `AND`: a fragment as the expression that it is on its own, and
any other one as a test of its column. What stands around it makes no difference.
-/

namespace Statbook.Sqlite

open Reading

variable {values : List Cell} {taken fuel : Nat} {t : Token} {ts us : List Token}
  {part : String} {parts : List String} {a c : Unresolved} {k : Constraint}

/-- What a constraint makes of its column. -/
def testOf : Constraint → Unresolved → Unresolved
  | .sql _, c => c
  | .equals _ .null, c => .isNull c
  | .equals _ value, c => .compare .equal c (.literal (.ofSqlValue value))
  | .oneOf _ values, c => c.isOneOf (values.map fun value => .literal (.ofSqlValue value))
  | .between _ first last, c =>
    c.isBetween (.literal (.text first.sqlText)) (.literal (.text last.sqlText))

namespace Reading

theorem operand_name (lexeme : t.lexeme = .name part true) (fuel : Nat) (ts : List Token) :
    operand (fuel + 1) (t :: ts) = dottedNames 2 ts >>= fun (others, rest) =>
      pure (.column ⟨part :: others, if others.isEmpty then cellOfName? t else none,
        t.bytesOnward⟩, rest) := by
  have word : word? t = none := by simp [word?, lexeme]
  have isName : name (t :: ts) = .ok (part, ts) := by simp [name, name?, lexeme]
  rw [operand_other (by simp [lexeme]), if_neg (by simp [word])]
  simp only [atom, lexeme, word, isWordOf, columnName, isName, bind, Except.bind]
  cases dottedNames 2 ts <;> rfl

theorem dottedNames_cons {dot : Token} (isDot : dot.lexeme = .mark .dot)
    (lexeme : t.lexeme = .name part true) (most : Nat) (ts : List Token) :
    dottedNames (most + 1) (dot :: t :: ts) = dottedNames most ts >>= fun (others, rest) =>
      pure (part :: others, rest) := by
  have isName : name (t :: ts) = .ok (part, ts) := by simp [name, name?, lexeme]
  simp only [dottedNames, afterMark?, isDot, if_true, isName, bind, Except.bind]

theorem dottedNames_stop (noDot : afterMark? .dot ts = none) (most : Nat) :
    dottedNames most ts = .ok ([], ts) := by
  cases most with
  | zero => rfl
  | succ most => simp only [dottedNames, noDot]

/-- The tokens of parts after the first one of a column. -/
def laterLexemes (parts : List String) : List Lexeme :=
  parts.flatMap fun part => [.mark .dot, .name part true]

theorem columnLexemes_cons (part : String) (parts : List String) :
    Token.columnLexemes (part :: parts) = .name part true :: laterLexemes parts := by
  induction parts generalizing part with
  | nil => rfl
  | cons next parts ih =>
    show .name part true :: .mark .dot :: Token.columnLexemes (next :: parts) = _
    rw [ih]
    rfl

theorem dottedNames_parts (kinds : ts.map Token.lexeme = laterLexemes parts)
    (noDot : afterMark? .dot us = none) {most : Nat} (few : parts.length ≤ most) :
    dottedNames most (ts ++ us) = .ok (parts, us) := by
  induction parts generalizing ts most with
  | nil =>
    obtain rfl := List.map_eq_nil_iff.mp kinds
    rw [List.nil_append, dottedNames_stop noDot]
  | cons part parts ih =>
    obtain ⟨dot, ts, rfl, isDot, kinds⟩ := List.map_eq_cons_iff.mp kinds
    obtain ⟨t, ts, rfl, isName, kinds⟩ := List.map_eq_cons_iff.mp kinds
    obtain ⟨most, rfl⟩ := Nat.exists_eq_succ_of_ne_zero (Nat.ne_zero_of_lt few)
    rw [List.cons_append, List.cons_append, dottedNames_cons isDot isName,
      ih kinds (Nat.le_of_succ_le_succ few)]
    rfl

/-- A column of up to three parts is an operand. -/
theorem operand_column_parts (kinds : ts.map Token.lexeme = Token.columnLexemes parts)
    (two : 2 ≤ parts.length) (few : parts.length ≤ 3) (noDot : afterMark? .dot us = none) (fuel : Nat) :
    ∃ c, operand (fuel + 1) (ts ++ us) = .ok (c, us) ∧ c.given values = .column ⟨parts, none, 0⟩ := by
  match parts, two with
  | part :: next :: parts, _ =>
    rw [columnLexemes_cons] at kinds
    obtain ⟨t, ts, rfl, isName, kinds⟩ := List.map_eq_cons_iff.mp kinds
    refine ⟨.column ⟨part :: next :: parts, none, t.bytesOnward⟩, ?_, rfl⟩
    rw [List.cons_append, operand_name isName,
      dottedNames_parts kinds noDot (Nat.le_of_succ_le_succ few)]
    rfl

/-- The place of a value. -/
theorem operand_parameter {number : Nat} (lexeme : t.lexeme = .parameter (some number))
    (fuel : Nat) (ts : List Token) :
    operand (fuel + 1) (t :: ts) = .ok (.parameter number, ts) := by
  rw [operand_other (by simp [lexeme]), if_neg (by simp [word?, lexeme])]
  simp [atom, lexeme]

theorem ordered_of_operand (isOperand : operand (fuel + 1) ts = .ok (a, us)) (ends : Stops 1 us) :
    ordered (fuel + 2) ts = .ok (a, us) := by
  simp only [ordered, isOperand, bind, Except.bind, moreOrdered_stop ends]

/-- What follows an operand is read as tests of it. -/
theorem negation_of_operand (isOperand : operand (fuel + 1) ts = .ok (a, us))
    (noNot : afterWord? "not" ts = none) (ends : Stops 1 us) :
    negation (fuel + 3) ts = moreTests (fuel + 2) a us := by
  simp only [negation, noNot, ordered_of_operand isOperand ends, bind, Except.bind]

theorem tier_and (word : word? t = some "and") : tier t = 3 := by
  obtain ⟨text, lexeme⟩ := exists_word word
  have test : testWords.contains "and" = false := by decide
  simp [tier, lexeme, orderTest?, equalityTest?, isWordOf, word, -List.contains_eq_mem, test]

theorem valueAt_of_stored {cell : Cell} {cells : List Cell} (stored : cell :: cells <+: values.drop taken) :
    Expr.valueAt values (taken + 1) = cell ∧ cells <+: values.drop (taken + 1) := by
  obtain ⟨more, split⟩ := stored
  have first : values[taken]? = some cell := by
    rw [← Nat.add_zero taken, ← List.getElem?_drop, ← split]
    rfl
  refine ⟨by simp [Expr.valueAt, first], more, ?_⟩
  rw [← List.tail_drop, ← split]
  rfl

/-- The places of values are read as a list of them. -/
theorem expressions_values {given : List SqlValue} (fuel : Nat) (nonempty : given ≠ [])
    (kinds : ts.map Token.lexeme = Token.valueLexemes taken given.length)
    (stored : given.map Cell.ofSqlValue <+: values.drop taken) {closing : Token}
    (closes : closing.lexeme = .mark .closing) (enough : given.length ≤ fuel) :
    ∃ items, expressions (fuel + 5) (ts ++ closing :: us) = .ok (items, closing :: us) ∧
      items.map (Expr.given values) = given.map fun value => .literal (.ofSqlValue value) := by
  induction given generalizing ts taken fuel with
  | nil => exact absurd rfl nonempty
  | cons value given ih =>
    obtain ⟨fuel, rfl⟩ := Nat.exists_eq_succ_of_ne_zero (Nat.ne_zero_of_lt enough)
    obtain ⟨isValue, stored⟩ := valueAt_of_stored stored
    have first {t : Token} (lexeme : t.lexeme = .parameter (some (taken + 1))) {rest : List Token}
        (ends : Stops 4 rest) : disjunction (fuel + 5) (t :: rest) = .ok (.parameter (taken + 1), rest) := by
      refine disjunction_of_operand (operand_parameter lexeme _ _) ?_ ends
      simp [afterWord?, word?, lexeme]
    cases given with
    | nil =>
      obtain ⟨t, ts, rfl, isPlace, kinds⟩ := List.map_eq_cons_iff.mp kinds
      obtain rfl := List.map_eq_nil_iff.mp kinds
      have ends : Stops 4 (closing :: us) := stops_cons.mpr (by simp [tier_closing closes])
      refine ⟨[.parameter (taken + 1)], ?_, ?_⟩
      · simp only [List.cons_append, List.nil_append, expressions, first isPlace ends, bind,
          Except.bind, afterMark?, closes]
        rfl
      · simp [Expr.given, Expr.settle, isValue]
    | cons next given =>
      obtain ⟨t, ts, rfl, isPlace, kinds⟩ := List.map_eq_cons_iff.mp kinds
      obtain ⟨comma, ts, rfl, isComma, kinds⟩ := List.map_eq_cons_iff.mp kinds
      have ends : Stops 4 (comma :: (ts ++ closing :: us)) := by
        refine stops_cons.mpr ?_
        simp [tier, isComma, orderTest?, equalityTest?, isWordOf, word?]
      obtain ⟨items, areItems, same⟩ := ih fuel (List.cons_ne_nil _ _) kinds stored
        (Nat.le_of_succ_le_succ enough)
      refine ⟨.parameter (taken + 1) :: items, ?_, ?_⟩
      · rw [List.cons_append, List.cons_append, expressions]
        refine bind_eq_ok_iff.mpr ⟨_, first isPlace ends, ?_⟩
        simp only [afterMark?, isComma, if_true]
        exact bind_eq_ok_iff.mpr ⟨_, areItems, rfl⟩
      · rw [List.map_cons, same, List.map_cons]
        simp [Expr.given, Expr.settle, isValue]

/-- The places of values are read as what a column is one of. -/
theorem membership_values {given : List SqlValue} (nonempty : given ≠ [])
    (kinds : ts.map Token.lexeme =
      .word "IN" :: .mark .opening :: (Token.valueLexemes taken given.length ++ [.mark .closing]))
    (stored : given.map Cell.ofSqlValue <+: values.drop taken) (enough : given.length ≤ fuel) :
    ∃ items, membership (fuel + 6) c (ts ++ us) = .ok (c.isOneOf items, us) ∧
      items.map (Expr.given values) = given.map fun value => .literal (.ofSqlValue value) := by
  obtain ⟨isIn, ts, rfl, inLexeme, kinds⟩ := List.map_eq_cons_iff.mp kinds
  obtain ⟨opening, ts, rfl, isOpening, kinds⟩ := List.map_eq_cons_iff.mp kinds
  obtain ⟨ts, closings, rfl, places, isClosing⟩ := List.map_eq_append_iff.mp kinds
  obtain ⟨closing, rest, rfl, closes, nothing⟩ := List.map_eq_cons_iff.mp isClosing
  obtain rfl := List.map_eq_nil_iff.mp nothing
  have spelled : "IN".toLower = "in" := by decide +kernel
  obtain ⟨items, areItems, same⟩ :=
    @expressions_values values taken ts us given fuel nonempty places stored _ closes enough
  have starts : afterMark? .closing (ts ++ closing :: us) = none ∧
      (ts ++ closing :: us).head?.any (isWordOf queryWords) = false := by
    obtain ⟨place, ts, rfl, isPlace⟩ : ∃ place ts', ts = place :: ts' ∧
        place.lexeme = .parameter (some (taken + 1)) := by
      match given, nonempty with
      | [_], _ | _ :: _ :: _, _ =>
        obtain ⟨place, ts, rfl, isPlace, -⟩ := List.map_eq_cons_iff.mp places
        exact ⟨place, ts, rfl, isPlace⟩
    simp [afterMark?, isPlace, isWordOf, word?]
  have noBetween : afterWord? "between" (isIn :: opening :: (ts ++ closing :: us)) = none := by
    simp [afterWord?, word?, inLexeme, spelled]
  have isKeyword : keyword "in" (isIn :: opening :: (ts ++ closing :: us)) =
      .ok ((), opening :: (ts ++ closing :: us)) := by
    simp [keyword, afterWord?, word?, inLexeme, spelled]
  have isMark : mark .opening (opening :: (ts ++ closing :: us)) = .ok ((), ts ++ closing :: us) := by
    simp [mark, afterMark?, isOpening]
  have isEnd : mark .closing (closing :: us) = .ok ((), us) := by simp [mark, afterMark?, closes]
  refine ⟨items, ?_, same⟩
  simp only [List.cons_append, List.append_assoc, List.nil_append]
  rw [membership, noBetween]
  refine bind_eq_ok_iff.mpr ⟨_, isKeyword, bind_eq_ok_iff.mpr ⟨_, isMark, ?_⟩⟩
  simp only [starts.1, starts.2, Bool.false_eq_true, if_false]
  exact bind_eq_ok_iff.mpr ⟨_, areItems, bind_eq_ok_iff.mpr ⟨_, isEnd, rfl⟩⟩

/-- The places of two values are read as what a column lies between. -/
theorem membership_bounds (kinds : ts.map Token.lexeme = [.word "BETWEEN",
      .parameter (some (taken + 1)), .word "AND", .parameter (some (taken + 2))])
    (ends : Stops 1 us) (fuel : Nat) : membership (fuel + 3) c (ts ++ us) =
      .ok (c.isBetween (.parameter (taken + 1)) (.parameter (taken + 2)), us) := by
  obtain ⟨between, ts, rfl, isBetween, kinds⟩ := List.map_eq_cons_iff.mp kinds
  obtain ⟨place, ts, rfl, isPlace, kinds⟩ := List.map_eq_cons_iff.mp kinds
  obtain ⟨and, ts, rfl, isAnd, kinds⟩ := List.map_eq_cons_iff.mp kinds
  obtain ⟨place', ts, rfl, isPlace', kinds⟩ := List.map_eq_cons_iff.mp kinds
  obtain rfl := List.map_eq_nil_iff.mp kinds
  have spelled : "BETWEEN".toLower = "between" ∧ "AND".toLower = "and" := by decide +kernel
  have isWord : word? and = some "and" := by simp [word?, isAnd, spelled]
  have isFirst : ordered (fuel + 2) (place :: and :: place' :: us) =
      .ok (.parameter (taken + 1), and :: place' :: us) := by
    refine ordered_of_operand (operand_parameter isPlace _ _) (stops_cons.mpr ?_)
    rw [tier_and isWord]
    decide
  have isLast : ordered (fuel + 2) (place' :: us) = .ok (.parameter (taken + 2), us) :=
    ordered_of_operand (operand_parameter isPlace' _ us) ends
  have isKeyword : keyword "and" (and :: place' :: us) = .ok ((), place' :: us) := by
    simp [keyword, afterWord?, isWord]
  simp only [List.cons_append, List.nil_append]
  rw [membership]
  simp only [afterWord?, word?, isBetween, spelled, if_true]
  refine bind_eq_ok_iff.mpr ⟨_, isFirst, bind_eq_ok_iff.mpr ⟨_, isKeyword, ?_⟩⟩
  exact bind_eq_ok_iff.mpr ⟨_, isLast, rfl⟩

theorem moreTests_membership (isTest : word? t = some "in" ∨ word? t = some "between")
    {e : Unresolved} (isMember : membership (fuel + 1) c (t :: ts) = .ok (e, us)) (ends : Stops 2 us) :
    moreTests (fuel + 2) c (t :: ts) = .ok (e, us) := by
  have noTest : equalityTest? t = none := by
    obtain word | word := isTest
    all_goals
      obtain ⟨text, lexeme⟩ := exists_word word
      simp [equalityTest?, lexeme]
  rw [moreTests]
  obtain word | word := isTest
  all_goals
    simp only [noTest, word]
    exact bind_eq_ok_iff.mpr ⟨_, isMember, moreTests_stop ends _ e⟩

/-- The words `IS NULL` are read as that test. -/
theorem moreTests_null (kinds : ts.map Token.lexeme = [.word "IS", .word "NULL"])
    (ends : Stops 2 us) (fuel : Nat) : moreTests (fuel + 2) c (ts ++ us) = .ok (.isNull c, us) := by
  obtain ⟨is, ts, rfl, isIs, kinds⟩ := List.map_eq_cons_iff.mp kinds
  obtain ⟨null, ts, rfl, isNull, kinds⟩ := List.map_eq_cons_iff.mp kinds
  obtain rfl := List.map_eq_nil_iff.mp kinds
  have spelled : "IS".toLower = "is" ∧ "NULL".toLower = "null" := by decide +kernel
  simp only [List.cons_append, List.nil_append]
  rw [moreTests]
  simp [equalityTest?, word?, isIs, isNull, spelled, afterWord?, keyword, Expr.negatedIf, bind,
    Except.bind, moreTests_stop ends]

/-- The place of a value is read as what a column is equal to. -/
theorem moreTests_equal
    (kinds : ts.map Token.lexeme = [.mark .equal, .parameter (some (taken + 1))])
    (ends : Stops 2 us) (fuel : Nat) :
    moreTests (fuel + 3) c (ts ++ us) = .ok (.compare .equal c (.parameter (taken + 1)), us) := by
  obtain ⟨equal, ts, rfl, isEqual, kinds⟩ := List.map_eq_cons_iff.mp kinds
  obtain ⟨place, ts, rfl, isPlace, kinds⟩ := List.map_eq_cons_iff.mp kinds
  obtain rfl := List.map_eq_nil_iff.mp kinds
  have isOrdered : ordered (fuel + 2) (place :: us) = .ok (.parameter (taken + 1), us) :=
    ordered_of_operand (operand_parameter isPlace _ us) (ends.lower (by omega))
  simp only [List.cons_append, List.nil_append]
  rw [moreTests]
  simp only [equalityTest?, isEqual, isOrdered, bind, Except.bind, moreTests_stop ends]

/-- A test of a column is read up to where it ends. -/
theorem moreTests_test (compares : (comparedColumn? k).isSome)
    (kinds : ts.map Token.lexeme = testLexemes taken k)
    (stored : k.values.map Cell.ofSqlValue <+: values.drop taken) (ends : Stops 2 us)
    (enough : k.values.length ≤ fuel) :
    ∃ e, moreTests (fuel + 7) c (ts ++ us) = .ok (e, us) ∧
      e.given values = testOf k (c.given values) := by
  cases k with
  | sql fragment => cases compares
  | equals column value =>
    cases value with
    | null => exact ⟨.isNull c, moreTests_null kinds ends _, rfl⟩
    | integer value | real value | text value =>
      refine ⟨.compare .equal c (.parameter (taken + 1)), moreTests_equal kinds ends _, ?_⟩
      simp [Expr.given, Expr.settle, testOf, (valueAt_of_stored stored).1]
  | oneOf column given =>
    cases given with
    | nil => cases compares
    | cons value given =>
      obtain ⟨items, isMember, same⟩ := @membership_values values taken fuel ts us c _
        (List.cons_ne_nil value given) kinds stored enough
      obtain ⟨isIn, ts, rfl, inLexeme, -⟩ := List.map_eq_cons_iff.mp kinds
      have spelled : "IN".toLower = "in" := by decide +kernel
      refine ⟨c.isOneOf items,
        moreTests_membership (.inl (by simp [word?, inLexeme, spelled])) isMember ends, ?_⟩
      rw [Expr.given, Expr.settle_isOneOf]
      exact congrArg _ same
  | between column first last =>
    obtain ⟨isValue, stored⟩ := valueAt_of_stored stored
    obtain ⟨isValue', -⟩ := valueAt_of_stored stored
    have isMember := @membership_bounds taken ts us c kinds (ends.lower (by omega)) (fuel + 3)
    obtain ⟨between, ts, rfl, isBetween, -⟩ := List.map_eq_cons_iff.mp kinds
    have spelled : "BETWEEN".toLower = "between" := by decide +kernel
    refine ⟨c.isBetween (.parameter (taken + 1)) (.parameter (taken + 2)),
      moreTests_membership (.inr (by simp [word?, isBetween, spelled])) isMember ends, ?_⟩
    rw [Expr.given, Expr.settle_isBetween]
    simp only [Expr.settle, isValue, isValue']
    rfl

end Reading

end Statbook.Sqlite
