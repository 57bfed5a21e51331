import Statbook.Proofs.Sqlite.Condition

/-!
# Which constraints are conditions

A constraint that stands for itself is read as one operand of `AND`, the same one wherever it
stands, or no statement with it is read to its end. The second is so if its column has too many
parts, if it is the star, if a NUL cuts it off, or if a fragment starts like a query.
-/

namespace Statbook.Sqlite

namespace Token

/-- Whether a token is the place of a value. -/
def isPlace (t : Token) : Bool :=
  match t.lexeme with
  | .parameter _ => true
  | _ => false

variable {ts us : List Token} {taken count more : Nat} {k : Constraint}

theorem parameter_ne {t : Token} (other : t.isPlace = false) (number : Option Nat) :
    t.lexeme ≠ .parameter number := by
  intro lexeme
  simp [isPlace, lexeme] at other

/-- Places of values stay places when they are given numbers. -/
theorem numberParameters_eq_of_noPlace {largest : Nat}
    (none : ∀ t ∈ numberParameters largest ts, t.isPlace = false) : numberParameters largest ts = ts := by
  induction ts generalizing largest with
  | nil => rfl
  | cons t ts ih =>
    have later {largest : Nat} {t' : Token}
        (none : ∀ u ∈ t' :: numberParameters largest ts, u.isPlace = false) :=
      ih fun u member => none u (List.mem_cons_of_mem _ member)
    unfold numberParameters at none ⊢
    split at none
    · exact congrArg _ (later none)
    · exact absurd (none _ List.mem_cons_self) (by simp [isPlace])
    · exact congrArg _ (later none)

/-- In front of tokens that are all numbered, numbering changes nothing. -/
theorem numberParameters_numbered (numbered : ∀ t ∈ ts, t.lexeme ≠ .parameter none) (largest : Nat) :
    ∃ largest', ∀ us, numberParameters largest (ts ++ us) = ts ++ numberParameters largest' us := by
  induction ts generalizing largest with
  | nil => exact ⟨largest, fun us => rfl⟩
  | cons t ts ih =>
    have onward := ih fun u member => numbered u (List.mem_cons_of_mem t member)
    have first := numbered t List.mem_cons_self
    cases lexeme : t.lexeme with
    | parameter number =>
      cases number with
      | none => exact absurd lexeme first
      | some number =>
        obtain ⟨largest', after⟩ := onward (max largest number)
        exact ⟨largest', fun us => by simp only [List.cons_append, numberParameters, lexeme, after]⟩
    | _ =>
      obtain ⟨largest', after⟩ := onward largest
      exact ⟨largest', fun us => by simp only [List.cons_append, numberParameters, lexeme, after]⟩

theorem numberParameters_eq (numbered : ∀ t ∈ ts, t.lexeme ≠ .parameter none) (largest : Nat) :
    numberParameters largest ts = ts := by
  obtain ⟨largest', same⟩ := numberParameters_numbered numbered largest
  simpa [numberParameters] using same []

/-- The largest number of a place, if that many values were taken before. -/
def largest (taken : Nat) (ls : List Lexeme) : Nat :=
  ls.foldl (fun largest l => match l with
    | .parameter number => max largest (number.getD 0)
    | _ => largest) taken

theorem valueCount_eq (ts : List Token) : valueCount ts = largest 0 (ts.map lexeme) := by
  rw [largest, List.foldl_map]
  rfl

theorem largest_append (taken : Nat) (ls ms : List Lexeme) :
    largest taken (ls ++ ms) = largest (largest taken ls) ms :=
  List.foldl_append

/-- The places of so many values, the next ones after those that were taken before. -/
structure Takes (taken count : Nat) (ls : List Lexeme) : Prop where
  numbered : .parameter none ∉ ls
  largest : largest taken ls = taken + count

theorem Takes.append {ls ms : List Lexeme} (first : Takes taken count ls)
    (second : Takes (taken + count) more ms) : Takes taken (count + more) (ls ++ ms) where
  numbered := by
    rw [List.mem_append]
    exact not_or_intro first.numbered second.numbered
  largest := by rw [largest_append, first.largest, second.largest, Nat.add_assoc]

theorem takes_place (taken : Nat) : Takes taken 1 [.parameter (some (taken + 1))] where
  numbered := by simp
  largest := Nat.max_eq_right (Nat.le_succ taken)

theorem takes_none {ls : List Lexeme} (none : ∀ l ∈ ls, ∀ number, l ≠ .parameter number)
    (taken : Nat) : Takes taken 0 ls where
  numbered := fun member => none _ member _ rfl
  largest := by
    induction ls with
    | nil => rfl
    | cons l ls ih =>
      have onward := ih fun m member => none m (List.mem_cons_of_mem l member)
      have first := none l List.mem_cons_self
      cases l with
      | parameter number => exact absurd rfl (first number)
      | _ => exact onward

theorem takes_plain {ls : List Lexeme} (plain : ∀ l ∈ ls, l.isPlain) (taken : Nat) :
    Takes taken 0 ls := by
  refine takes_none (fun l member number same => ?_) taken
  have isPlain := plain l member
  simp [same, Lexeme.isPlain] at isPlain

theorem takes_valueLexemes (taken count : Nat) : Takes taken count (valueLexemes taken count) := by
  induction count generalizing taken with
  | zero => exact takes_plain (by simp [valueLexemes]) taken
  | succ count ih =>
    cases count with
    | zero => exact takes_place taken
    | succ count =>
      have onward := ih (taken + 1)
      have comma : Takes (taken + 1) 0 [.mark .comma] := takes_plain (by simp [Lexeme.isPlain]) _
      have whole := (takes_place taken).append (comma.append onward)
      rw [Nat.zero_add, Nat.add_comm 1] at whole
      exact whole

theorem isPlain_of_mem_columnLexemes {parts : List String} :
    ∀ l ∈ columnLexemes parts, l.isPlain := by
  induction parts with
  | nil => simp [columnLexemes]
  | cons part parts ih =>
    cases parts with
    | nil => simp [columnLexemes, Lexeme.isPlain]
    | cons next parts => simpa [columnLexemes, Lexeme.isPlain] using ih

theorem takes_testLexemes (compares : (comparedColumn? k).isSome) (taken : Nat) :
    Takes taken k.values.length (testLexemes taken k) := by
  have plain {ls : List Lexeme} (plain : ∀ l ∈ ls, l.isPlain) {taken : Nat} : Takes taken 0 ls :=
    takes_plain plain taken
  cases k with
  | sql fragment => cases compares
  | equals column value =>
    cases value with
    | null => exact plain (by simp [testLexemes, Lexeme.isPlain])
    | integer | real | text =>
      have equal : Takes taken 0 [.mark .equal] := plain (by simp [Lexeme.isPlain])
      exact equal.append (takes_place taken)
  | oneOf column values =>
    cases values with
    | nil => cases compares
    | cons value values =>
      have opening : Takes taken 0 [.word "IN", .mark .opening] := plain (by simp [Lexeme.isPlain])
      have closing : Takes (taken + (value :: values).length) 0 [.mark .closing] :=
        plain (by simp [Lexeme.isPlain])
      have whole := opening.append ((takes_valueLexemes taken _).append closing)
      rw [Nat.zero_add] at whole
      exact whole
  | between column first last =>
    have between : Takes taken 0 [.word "BETWEEN"] := plain (by simp [Lexeme.isPlain])
    have and : Takes (taken + 1) 0 [.word "AND"] := plain (by simp [Lexeme.isPlain])
    exact between.append ((takes_place taken).append (and.append (takes_place (taken + 1))))

theorem number_ne_of_mem_valueLexemes {l : Lexeme} (member : l ∈ valueLexemes taken count)
    (literal : NumberLiteral) : l ≠ .number literal := by
  induction count generalizing taken with
  | zero => cases member
  | succ count ih =>
    cases count with
    | zero => simp [List.mem_singleton.mp member]
    | succ count =>
      obtain rfl | rfl | later := by simpa [valueLexemes] using member
      · simp
      · simp
      · exact ih later

theorem number_ne_of_mem_testLexemes {l : Lexeme} (member : l ∈ testLexemes taken k)
    (literal : NumberLiteral) : l ≠ .number literal := by
  cases k with
  | sql fragment => cases member
  | equals column value =>
    cases value
    all_goals
      simp only [testLexemes, List.mem_cons, List.not_mem_nil, or_false] at member
      obtain rfl | rfl := member <;> simp
  | oneOf column values =>
    simp only [testLexemes, List.mem_cons, List.mem_append, List.not_mem_nil, or_false] at member
    obtain rfl | rfl | places | rfl := member
    · simp
    · simp
    · exact number_ne_of_mem_valueLexemes places literal
    · simp
  | between column first last =>
    simp only [testLexemes, List.mem_cons, List.not_mem_nil, or_false] at member
    obtain rfl | rfl | rfl | rfl := member <;> simp

theorem misgrouped?_eq_none {t : Token} (noNumber : ∀ literal, t.lexeme ≠ .number literal) :
    t.misgrouped? = none := by
  unfold misgrouped?
  split
  · rename_i lexeme
    exact absurd lexeme (noNumber _)
  · rfl

end Token

open Token Reading

variable {table column : String} {k : Constraint} {taken fuel : Nat} {values : List Cell}
  {ts us : List Token} {a c e : Unresolved}

/-- Whether no number in a fragment has misplaced separators. -/
def Grouped : Constraint → Prop
  | .sql fragment => ∀ t ∈ lex fragment.toList, t.misgrouped? = none
  | _ => True

/-- The tokens of a constraint, if that is a condition. -/
structure Conveys (taken : Nat) (k : Constraint) (e : Unresolved) (ts : List Token) : Prop where
  takes : Takes taken k.values.length (ts.map Token.lexeme)
  grouped : (∀ t ∈ ts, t.misgrouped? = none) ↔ Grouped k
  read : ∀ {values : List Cell}, k.values.map Cell.ofSqlValue <+: values.drop taken →
    ∀ {us : List Token}, Stops 2 us → ∀ fuel, 8 * (ts ++ us).length + 3 ≤ fuel →
      ∃ e', negation fuel (ts ++ us) = .ok (e', us) ∧ e'.given values = e

/-- The column of a constraint, if it can be one. -/
def columnOf? (table column : String) : Option Unresolved :=
  if Sql.isExpression column ∨ nul ∈ column.toList ∨ 3 < (columnParts table column).length then none
  else some (.column ⟨columnParts table column, none, 0⟩)

theorem stops_test (compares : (comparedColumn? k).isSome)
    (kinds : ts.map Token.lexeme = testLexemes taken k) : Stops 1 (ts ++ us) := by
  have starts {t : Token} {ts : List Token} (test : (equalityTest? t).isSome || isWordOf testWords t)
      (noDot : t.lexeme ≠ .mark .dot) (noOrder : orderTest? t = none) : Stops 1 (t :: ts ++ us) := by
    refine stops_cons.mpr ?_
    simp [tier, noDot, noOrder, test]
  have word {t : Token} {ts : List Token} {text : String} (lexeme : t.lexeme = .word text)
      (isTest : testWords.contains text.toLower) : Stops 1 (t :: ts ++ us) := by
    refine starts ?_ (by simp [lexeme]) (by simp [orderTest?, lexeme])
    simp only [isWordOf, word?, lexeme, Option.any_some, isTest, Bool.or_true]
  cases k with
  | sql fragment => cases compares
  | equals column value =>
    cases value with
    | null =>
      obtain ⟨is, ts, rfl, isIs, -⟩ := List.map_eq_cons_iff.mp kinds
      exact word isIs (by decide +kernel)
    | integer | real | text =>
      obtain ⟨equal, ts, rfl, isEqual, -⟩ := List.map_eq_cons_iff.mp kinds
      exact starts (by simp [equalityTest?, isEqual]) (by simp [isEqual]) (by simp [orderTest?, isEqual])
  | oneOf column given =>
    obtain ⟨isIn, ts, rfl, inLexeme, -⟩ := List.map_eq_cons_iff.mp kinds
    exact word inLexeme (by decide +kernel)
  | between column first last =>
    obtain ⟨between, ts, rfl, isBetween, -⟩ := List.map_eq_cons_iff.mp kinds
    exact word isBetween (by decide +kernel)

theorem length_valueLexemes (taken count : Nat) : count ≤ (valueLexemes taken count).length := by
  induction count generalizing taken with
  | zero => exact Nat.zero_le _
  | succ count ih =>
    cases count with
    | zero => exact Nat.le_refl _
    | succ count =>
      have onward := ih (taken + 1)
      simp only [valueLexemes, List.length_cons]
      omega

theorem length_testLexemes (compares : (comparedColumn? k).isSome) (taken : Nat) :
    k.values.length ≤ (testLexemes taken k).length := by
  cases k with
  | sql fragment => cases compares
  | equals column value => cases value <;> simp [testLexemes, Constraint.values]
  | oneOf column values =>
    have places := length_valueLexemes taken values.length
    simp only [testLexemes, List.length_cons, List.length_append, Constraint.values]
    omega
  | between column first last => simp [testLexemes, Constraint.values]

/-- No token of a comparison is a number. -/
theorem misgrouped?_of_comparison
    (kinds : ts.map Token.lexeme =
      columnLexemes (columnParts table column) ++ testLexemes taken k) :
    ∀ t ∈ ts, t.misgrouped? = none := by
  intro t member
  refine misgrouped?_eq_none fun literal lexeme => ?_
  have isKind : t.lexeme ∈ ts.map Token.lexeme := List.mem_map_of_mem member
  rw [kinds, List.mem_append] at isKind
  obtain inColumn | inTest := isKind
  · have isPlain := isPlain_of_mem_columnLexemes _ inColumn
    simp [lexeme, Lexeme.isPlain] at isPlain
  · exact number_ne_of_mem_testLexemes inTest literal lexeme

/-- A comparison is read as the test of its column, of which the values are given. -/
theorem negation_comparison (tests : (comparedColumn? k).isSome)
    (few : (columnParts table column).length ≤ 3)
    (kinds : ts.map Token.lexeme =
      columnLexemes (columnParts table column) ++ testLexemes taken k)
    (stored : k.values.map Cell.ofSqlValue <+: values.drop taken) (ends : Stops 2 us)
    (enough : 8 * (ts ++ us).length + 3 ≤ fuel) :
    ∃ e, negation fuel (ts ++ us) = .ok (e, us) ∧
      e.given values = testOf k (.column ⟨columnParts table column, none, 0⟩) := by
  have two := two_le_length_columnParts table column
  obtain ⟨cs, ts, rfl, isColumn, isTest⟩ := List.map_eq_append_iff.mp kinds
  obtain ⟨t, part, starts, isName⟩ : ∃ t part, cs.head? = some t ∧ t.lexeme = .name part true := by
    obtain ⟨part, parts, split⟩ := List.exists_cons_of_length_pos (Nat.lt_of_lt_of_le Nat.two_pos two)
    rw [split, columnLexemes_cons] at isColumn
    obtain ⟨t, cs, rfl, isName, -⟩ := List.map_eq_cons_iff.mp isColumn
    exact ⟨t, part, rfl, isName⟩
  have some : 0 < cs.length := List.length_pos_iff.mpr (by rintro rfl; cases starts)
  have short : k.values.length ≤ ts.length := by
    rw [← @List.length_map _ _ ts Token.lexeme, isTest]
    exact length_testLexemes tests taken
  have stops : Stops 1 (ts ++ us) := stops_test tests isTest
  simp only [List.length_append, List.append_assoc] at enough ⊢
  obtain ⟨fuel, rfl⟩ : ∃ n, fuel = n + 8 := ⟨fuel - 8, by omega⟩
  obtain ⟨c, isOperand, same⟩ := @operand_column_parts values cs (ts ++ us) _ isColumn two few
    (afterMark?_dot (stops.lower (by omega))) (fuel + 5)
  have noNot : afterWord? "not" (cs ++ (ts ++ us)) = none := by
    obtain ⟨cs, rfl⟩ := List.head?_eq_some_iff.mp starts
    simp [afterWord?, word?, isName]
  rw [negation_of_operand isOperand noNot stops]
  obtain ⟨e, taken, given⟩ :=
    @moreTests_test values taken fuel ts us c k tests isTest stored ends (by omega)
  exact ⟨e, taken, by rw [given, same]⟩

/-- A comparison of a column conveys the test of it. -/
theorem conveys_comparison (compares : comparedColumn? k = some column)
    (isColumn : columnOf? table column = some c)
    (kinds : ts.map Token.lexeme =
      columnLexemes (columnParts table column) ++ testLexemes taken k) :
    Conveys taken k (testOf k c) ts := by
  have tests : (comparedColumn? k).isSome := by simp [compares]
  unfold columnOf? at isColumn
  split at isColumn
  · cases isColumn
  rename_i plain
  cases isColumn
  have few : (columnParts table column).length ≤ 3 := by
    simp only [not_or, Nat.not_lt] at plain
    exact plain.2.2
  refine ⟨?_, iff_of_true (misgrouped?_of_comparison kinds) ?_, fun stored us ends fuel enough =>
    negation_comparison tests few kinds stored ends enough⟩
  · rw [kinds]
    have inColumn : Takes taken 0 (columnLexemes (columnParts table column)) :=
      takes_plain isPlain_of_mem_columnLexemes taken
    have whole := inColumn.append (takes_testLexemes tests taken)
    rwa [Nat.zero_add] at whole
  · cases k with
    | sql => cases compares
    | equals | oneOf | between => trivial

theorem Token.Same.isWordOf {t t' : Token} (same : Same t t') (words : List String) :
    isWordOf words t' = isWordOf words t := by
  unfold Reading.isWordOf word?
  rw [same.lexeme]

theorem forall_of_same {p : Token → Prop} (stable : ∀ {t t'}, Same t t' → (p t ↔ p t'))
    (same : List.Forall₂ Same ts us) : (∀ t ∈ ts, p t) ↔ ∀ t ∈ us, p t := by
  induction same with
  | nil => exact Iff.rfl
  | cons first _ ih => rw [List.forall_mem_cons, List.forall_mem_cons, stable first, ih]

theorem Token.Same.misgrouped? {t t' : Token} (same : Same t t') : t'.misgrouped? = t.misgrouped? := by
  rw [Token.misgrouped?, Token.misgrouped?, same.lexeme, same.written]

theorem noPlace_of_same (same : List.Forall₂ Same ts us) (noPlace : ∀ t ∈ ts, t.isPlace = false) :
    ∀ t ∈ us, t.isPlace = false := by
  refine (forall_of_same (fun {t t'} same => ?_) same).mp noPlace
  rw [Token.isPlace, Token.isPlace, same.lexeme]

theorem grouped_of_same (same : List.Forall₂ Same ts us) :
    (∀ t ∈ ts, t.misgrouped? = none) ↔ ∀ t ∈ us, t.misgrouped? = none :=
  forall_of_same (fun same => by rw [same.misgrouped?]) same

theorem alongside_of_same {values values' : List Cell} {last last' : List Token}
    (noPlace : ∀ t ∈ ts, t.isPlace = false) (same : List.Forall₂ Same ts us) :
    Alongside values values' last last' (ts ++ last) (us ++ last') := by
  induction same with
  | nil => exact .ended
  | cons first _ ih =>
    refine .cons ⟨first.lexeme, first.written, fun number lexeme => ?_⟩
      (ih fun t member => noPlace t (List.mem_cons_of_mem _ member))
    exact absurd lexeme (parameter_ne (noPlace _ List.mem_cons_self) _)

/-- An expression that stands for itself is an operand between parentheses. -/
theorem operand_parentheses {vs : List Token} {opening closing : Token}
    (isOpening : opening.lexeme = .mark .opening) (closes : closing.lexeme = .mark .closing)
    (noPlace : ∀ t ∈ ts, t.isPlace = false) (noQuery : ts.head?.any (isWordOf queryWords) = false)
    (alone : expression ts = .ok (e, [])) (same : List.Forall₂ Same ts us)
    (enough : 8 * ts.length + 5 ≤ fuel) :
    ∃ e', operand (fuel + 1) (opening :: (us ++ closing :: vs)) = .ok (e', vs) ∧
      e'.given values = e.given [] := by
  have ends : Ends [] (closing :: vs) := by
    refine ⟨fun t first => (by cases first), fun t first => ?_⟩
    cases first
    exact .inr closes
  have along := @alongside_of_same ts us [] values [] (closing :: vs) noPlace same
  rw [List.append_nil] at along
  obtain ⟨-, e', us', alike, along', again⟩ := (carried ends _).disjunction alone along
  cases along'
  have noQuery' : (us ++ closing :: vs).head?.any (isWordOf queryWords) = false := by
    cases same with
    | nil => simp [isWordOf, word?, closes]
    | cons first _ =>
      simpa [first.isWordOf] using noQuery
  have isMark : mark .closing (closing :: vs) = .ok ((), vs) := by simp [mark, afterMark?, closes]
  refine ⟨e', ?_, alike.symm⟩
  rw [operand]
  simp only [isOpening, noQuery', Bool.false_eq_true, if_false]
  refine bind_eq_ok_iff.mpr ⟨_, again fuel (by simpa using enough), ?_⟩
  simp [afterMark?, closes, isMark, bind, Except.bind, pure, Except.pure]

/-- The condition that no row meets. -/
def never : Unresolved :=
  .compare .equal (.number false (NumberLiteral.read ['1']).1 0)
    (.number false (NumberLiteral.read ['0']).1 0)

/-- The condition that a constraint is, if it can be one. -/
def conditionOf? (table : String) : Constraint → Option Unresolved
  | .sql fragment =>
    if nul ∈ fragment.toList ∨ (lex fragment.toList).head?.any (isWordOf queryWords) then none
    else (expression (lex fragment.toList)).toOption.map fun (e, _) => e.given []
  | k =>
    match comparedColumn? k with
    | some column => (columnOf? table column).map (testOf k)
    | none => some never

/-- Whether a constraint stands for itself: a fragment is a whole expression, which no comment
goes on with and which asks for no values, and a column is no expression. -/
def StandsAlone : Constraint → Prop
  | .sql fragment => endsOpen (beforeNul fragment.toList) = false ∧
    (∀ t ∈ Database.tokensOf fragment, t.isPlace = false) ∧
    ∃ e, expression (Database.tokensOf fragment) = .ok (e, [])
  | .equals column _ | .oneOf column _ | .between column _ _ =>
    ' ' ∉ column.toList ∧ '(' ∉ column.toList

theorem conveys_fragment {fragment : String} {opening closing : Token}
    (isOpening : opening.lexeme = .mark .opening) (closes : closing.lexeme = .mark .closing)
    (noPlace : ∀ t ∈ lex fragment.toList, t.isPlace = false)
    (noQuery : (lex fragment.toList).head?.any (isWordOf queryWords) = false)
    (alone : expression (lex fragment.toList) = .ok (e, []))
    (same : List.Forall₂ Same (lex fragment.toList) ts) :
    Conveys taken (.sql fragment) (e.given []) (opening :: (ts ++ [closing])) := by
  have noPlace' : ∀ t ∈ opening :: (ts ++ [closing]), t.isPlace = false := by
    simp only [List.mem_cons, List.mem_append, List.not_mem_nil, or_false]
    rintro t (rfl | member | rfl)
    · simp [Token.isPlace, isOpening]
    · exact noPlace_of_same same noPlace t member
    · simp [Token.isPlace, closes]
  refine ⟨takes_none ?_ taken, ?_, fun {values} _ us ends fuel enough => ?_⟩
  · intro l member number
    obtain ⟨t, isToken, rfl⟩ := List.mem_map.mp member
    exact parameter_ne (noPlace' t isToken) number
  · have marks : opening.misgrouped? = none ∧ closing.misgrouped? = none :=
      ⟨misgrouped?_eq_none (by simp [isOpening]), misgrouped?_eq_none (by simp [closes])⟩
    simp only [List.forall_mem_cons, List.forall_mem_append, List.not_mem_nil, false_implies,
      implies_true, marks, and_true, true_and, Grouped]
    exact (grouped_of_same same).symm
  · simp only [List.cons_append, List.append_assoc, List.nil_append, List.length_cons,
      List.length_append] at enough ⊢
    have lengths := same.length_eq
    obtain ⟨fuel, rfl⟩ : ∃ n, fuel = n + 3 := ⟨fuel - 3, by omega⟩
    obtain ⟨e', isOperand, given⟩ := @operand_parentheses fuel values _ ts e us opening closing
      isOpening closes noPlace noQuery alone same (by omega)
    have noNot : afterWord? "not" (opening :: (ts ++ closing :: us)) = none := by
      simp [afterWord?, word?, isOpening]
    exact ⟨e', by rw [negation_of_operand isOperand noNot (ends.lower (by omega)), moreTests_stop ends], given⟩

theorem operand_number {t : Token} {n : NumberLiteral} (lexeme : t.lexeme = .number n) (fuel : Nat)
    (ts : List Token) : operand (fuel + 1) (t :: ts) = .ok (.number false n t.bytesOnward, ts) := by
  rw [operand_other (by simp [lexeme]), if_neg (by simp [word?, lexeme])]
  simp [atom, lexeme]

theorem conveys_never (column : String) (same : List.Forall₂ Same (lex "1=0".toList) ts) :
    Conveys taken (.oneOf column []) never ts := by
  have tokens : lex "1=0".toList = [⟨.number (NumberLiteral.read ['1']).1, ['1'], ['1', '=', '0']⟩,
      ⟨.mark .equal, ['='], ['=', '0']⟩, ⟨.number (NumberLiteral.read ['0']).1, ['0'], ['0']⟩] := by
    decide +kernel
  rw [tokens] at same
  match ts, same with
  | [one, equal, zero], .cons isOne (.cons isEqual (.cons isZero .nil)) =>
    have lexemes := And.intro isOne.lexeme (And.intro isEqual.lexeme isZero.lexeme)
    refine ⟨?_, iff_of_true ?_ trivial, fun {values} _ us ends fuel enough => ?_⟩
    · refine takes_none ?_ taken
      simp [lexemes]
    · have grouped : (NumberLiteral.read ['1']).1.misgrouped? ['1'] = none ∧
          (NumberLiteral.read ['0']).1.misgrouped? ['0'] = none := by decide +kernel
      simp [Token.misgrouped?, lexemes, isOne.written, isZero.written, grouped]
    · simp only [List.cons_append, List.nil_append, List.length_cons] at enough ⊢
      obtain ⟨fuel, rfl⟩ : ∃ n, fuel = n + 4 := ⟨fuel - 4, by omega⟩
      have noNot : afterWord? "not" (one :: equal :: zero :: us) = none := by
        simp [afterWord?, word?, lexemes]
      have stops : Stops 1 (equal :: zero :: us) := by
        refine stops_cons.mpr ?_
        simp [tier, lexemes, orderTest?, equalityTest?]
      have isLast : ordered (fuel + 2) (zero :: us) =
          .ok (.number false (NumberLiteral.read ['0']).1 zero.bytesOnward, us) :=
        ordered_of_operand (operand_number lexemes.2.2 _ us) (ends.lower (by omega))
      refine ⟨.compare .equal (.number false (NumberLiteral.read ['1']).1 one.bytesOnward)
        (.number false (NumberLiteral.read ['0']).1 zero.bytesOnward), ?_, rfl⟩
      rw [negation_of_operand (operand_number lexemes.1 (fuel + 1) _) noNot stops, moreTests]
      simp only [equalityTest?, lexemes]
      exact bind_eq_ok_iff.mpr ⟨_, isLast, moreTests_stop ends _ _⟩

theorem mem_boundChars {d : Char} {next : Nat} {pieces : List Sql.Piece}
    (member : d ∈ Sql.boundChars next pieces) :
    d = '?' ∨ Decimal.isDigit d ∨ ∃ text, .text text ∈ pieces ∧ d ∈ text.toList := by
  induction pieces generalizing next with
  | nil => cases member
  | cons piece pieces ih =>
    have later {next : Nat} (member : d ∈ Sql.boundChars next pieces) :
        d = '?' ∨ Decimal.isDigit d ∨ ∃ text, .text text ∈ piece :: pieces ∧ d ∈ text.toList :=
      (ih member).imp_right (Or.imp_right fun ⟨text, isPiece, inText⟩ =>
        ⟨text, List.mem_cons_of_mem _ isPiece, inText⟩)
    cases piece with
    | text text =>
      obtain here | there := List.mem_append.mp member
      · exact .inr (.inr ⟨text, List.mem_cons_self, here⟩)
      · exact later there
    | value value =>
      obtain here | there := List.mem_append.mp member
      · obtain rfl | digit := List.mem_cons.mp here
        · exact .inl rfl
        · exact .inr (.inl (Decimal.isDigit_of_mem_digits digit))
      · exact later there

theorem nul_notMem_boundChars {pieces : List Sql.Piece}
    (none : ∀ text, .text text ∈ pieces → nul ∉ text.toList) (next : Nat) :
    nul ∉ Sql.boundChars next pieces := by
  intro member
  obtain mark | digit | ⟨text, isPiece, inText⟩ := mem_boundChars member
  · exact absurd mark (by decide)
  · exact absurd digit (by decide)
  · exact none text isPiece inText

theorem eq_of_mem_valuePieces {text : String} {given : List SqlValue}
    (member : .text text ∈ Constraint.valuePieces given) : text = ", " := by
  unfold Constraint.valuePieces at member
  induction given with
  | nil => cases member
  | cons value given ih =>
    cases given with
    | nil => simp [Sql.joinPieces] at member
    | cons next given =>
      obtain rfl | later : text = ", " ∨ _ := by simpa [Sql.joinPieces] using member
      · rfl
      · exact ih (by simpa using later)

theorem nul_notMem_columnChars {parts : List String} (none : ∀ part ∈ parts, nul ∉ part.toList) :
    nul ∉ columnChars parts := by
  unfold columnChars
  induction parts with
  | nil => simp [Text.joinChars]
  | cons part parts ih =>
    have onward := ih fun part member => none part (List.mem_cons_of_mem _ member)
    have first := nul_notMem_quoteIdent (none part List.mem_cons_self)
    have dot : nul ≠ '.' := by decide
    cases parts with
    | nil => simpa [Text.joinChars] using first
    | cons next parts =>
      simp only [List.map_cons, Text.joinChars, List.mem_append, List.mem_singleton] at onward ⊢
      exact not_or_intro (not_or_intro first dot) onward

theorem isExpression_of_columnOf? (isColumn : columnOf? table column = some c) :
    Sql.isExpression column = false ∧ nul ∉ column.toList := by
  unfold columnOf? at isColumn
  split at isColumn
  · cases isColumn
  · rename_i plain
    simp only [not_or, Bool.not_eq_true] at plain
    exact ⟨plain.1, plain.2.1⟩

theorem nul_notMem_qualifyColumn (whole : nul ∉ table.toList)
    (isColumn : columnOf? table column = some c) : nul ∉ (Sql.qualifyColumn table column).toList := by
  obtain ⟨plain, noNul⟩ := isExpression_of_columnOf? isColumn
  rw [qualifyColumn_toList plain]
  refine nul_notMem_columnChars fun part member inPart => ?_
  exact noNul ((nul_mem_columnParts whole).mp ⟨part, member, inPart⟩)

theorem conditionOf?_comparison (compares : comparedColumn? k = some column) :
    conditionOf? table k = (columnOf? table column).map (testOf k) := by
  cases k with
  | sql fragment => cases compares
  | equals | oneOf | between => simp only [conditionOf?, compares]

theorem nul_notMem_condition (whole : nul ∉ table.toList)
    (isCondition : conditionOf? table k = some e) (next : Nat) :
    nul ∉ Sql.boundChars next (k.pieces table) := by
  have column {column : String} (compares : comparedColumn? k = some column) :
      nul ∉ (Sql.qualifyColumn table column).toList := by
    rw [conditionOf?_comparison compares] at isCondition
    obtain ⟨c, isColumn, -⟩ := Option.map_eq_some_iff.mp isCondition
    exact nul_notMem_qualifyColumn whole isColumn
  have before {text test : String} (first : nul ∉ text.toList) (second : nul ∉ test.toList) :
      nul ∉ (text ++ test).toList := by
    rw [String.toList_append, List.mem_append]
    exact not_or_intro first second
  refine nul_notMem_boundChars (fun text member => ?_) next
  cases k with
  | sql fragment =>
    have noNul : nul ∉ fragment.toList := by
      intro inside
      simp [conditionOf?, inside] at isCondition
    obtain rfl := Sql.Piece.text.inj (List.mem_singleton.mp member)
    exact before (before (by decide) noNul) (by decide)
  | equals name value =>
    cases value with
    | null =>
      obtain rfl := Sql.Piece.text.inj (List.mem_singleton.mp member)
      exact before (column rfl) (by decide)
    | integer | real | text =>
      obtain rfl : text = _ := by simpa [Constraint.pieces] using member
      exact before (column rfl) (by decide)
  | oneOf name given =>
    cases given with
    | nil =>
      obtain rfl := Sql.Piece.text.inj (List.mem_singleton.mp member)
      decide
    | cons value given =>
      have isText : text = Sql.qualifyColumn table name ++ " IN (" ∨
          .text text ∈ Constraint.valuePieces (value :: given) ∨ text = ")" := by
        simpa [Constraint.pieces] using member
      obtain rfl | inValues | rfl := isText
      · exact before (column rfl) (by decide)
      · rw [eq_of_mem_valuePieces inValues]
        decide
      · decide
  | between name first last =>
    have isText : text = Sql.qualifyColumn table name ++ " BETWEEN " ∨ text = " AND " := by
      simpa [Constraint.pieces] using member
    obtain rfl | rfl := isText
    · exact before (column rfl) (by decide)
    · decide

theorem beforeNul_eq {cs : List Char} (none : nul ∉ cs) : beforeNul cs = cs := by
  have whole := beforeNul_append none []
  rwa [List.append_nil, show beforeNul [] = [] from rfl, List.append_nil] at whole

theorem boundChars_fragment (fragment : String) (next : Nat) :
    Sql.boundChars next ((Constraint.sql fragment).pieces table) = '(' :: (fragment.toList ++ [')']) := by
  have marks : "(".toList = ['('] ∧ ")".toList = [')'] := by decide
  show ("(" ++ fragment ++ ")").toList ++ [] = _
  rw [String.toList_append, String.toList_append, marks.1, marks.2]
  simp

theorem head?_testChars (compares : (comparedColumn? k).isSome) (rest : List Char) :
    (testChars taken k ++ rest).head? ≠ some '"' := by
  cases k with
  | sql fragment => cases compares
  | equals column value => cases value <;> exact (by decide : some ' ' ≠ some '"')
  | oneOf | between => exact (by decide : some ' ' ≠ some '"')

theorem tokensOf_eq {text : String} (noPlace : ∀ t ∈ Database.tokensOf text, t.isPlace = false) :
    Database.tokensOf text = lex (beforeNul text.toList) :=
  numberParameters_eq_of_noPlace noPlace

section Tokens

variable {rest : List Char}

/-- A comparison of a column has its own tokens in front of a blank. -/
theorem lex_comparison (compares : comparedColumn? k = some column)
    (isCondition : conditionOf? table k = some e) (ends : ∀ c ∈ rest.head?, c = ' ') :
    ∃ ts, lex (Sql.boundChars (taken + 1) (k.pieces table) ++ rest) = ts ++ lex rest ∧
      Conveys taken k e ts := by
  rw [conditionOf?_comparison compares] at isCondition
  obtain ⟨c, isColumn, rfl⟩ := Option.map_eq_some_iff.mp isCondition
  have two := two_le_length_columnParts table column
  have nonempty : columnParts table column ≠ [] := by
    intro none
    simp [none] at two
  have head := @head?_testChars k taken (by simp [compares]) rest
  obtain ⟨ts, tokens, kinds⟩ :=
    (spells_column nonempty head).append (spells_test compares taken ends)
  refine ⟨ts, ?_, conveys_comparison compares isColumn kinds⟩
  rw [boundChars_pieces compares, qualifyColumn_toList (isExpression_of_columnOf? isColumn).1]
  exact tokens

/-- A fragment has its own tokens between its parentheses. -/
theorem lex_fragment {fragment : String} (stands : StandsAlone (.sql fragment))
    (isCondition : conditionOf? table (.sql fragment) = some e) :
    ∃ ts, lex (Sql.boundChars (taken + 1) ((Constraint.sql fragment).pieces table) ++ rest) =
        ts ++ lex rest ∧
      Conveys taken (.sql fragment) e ts := by
  obtain ⟨closed, noPlace, e', alone⟩ := stands
  simp only [conditionOf?] at isCondition
  split at isCondition
  · cases isCondition
  rename_i plain
  rw [not_or, Bool.not_eq_true] at plain
  have tokens := tokensOf_eq noPlace
  rw [beforeNul_eq plain.1] at closed tokens
  rw [tokens] at noPlace alone
  obtain rfl : e'.given [] = e := by simpa [alone, Except.toOption] using isCondition
  obtain ⟨ts, same, lexed⟩ := lex_append_of_closed closed (.inr rfl) rest
  refine ⟨.before (.mark .opening) ['('] (fragment.toList ++ ')' :: rest) ::
    (ts ++ [.before (.mark .closing) [')'] rest]), ?_,
      conveys_fragment rfl rfl noPlace plain.2 alone same⟩
  have isOpening := @lex_mark '(' .opening (fragment.toList ++ ')' :: rest) (by simp)
  have isClosing := @lex_mark ')' .closing rest (by simp)
  rw [boundChars_fragment, List.cons_append, List.append_assoc, List.singleton_append, isOpening,
    lexed, isClosing, List.cons_append, List.append_assoc, List.singleton_append]

/-- What stands for a choice among nothing has its own tokens in front of a blank. -/
theorem lex_never (ends : ∀ c ∈ rest.head?, c = ' ') :
    ∃ ts, lex (Sql.boundChars (taken + 1) ((Constraint.oneOf column []).pieces table) ++ rest) =
        ts ++ lex rest ∧
      Conveys taken (.oneOf column []) never ts := by
  have closed : endsOpen "1=0".toList = false := by decide +kernel
  have text : Sql.boundChars (taken + 1) ((Constraint.oneOf column []).pieces table) =
      "1=0".toList := List.append_nil _
  rw [text]
  cases rest with
  | nil =>
    exact ⟨lex "1=0".toList, by simp,
      conveys_never column (List.forall₂_same.mpr fun _ _ => ⟨rfl, rfl⟩)⟩
  | cons stop rest =>
    obtain ⟨ts, same, lexed⟩ := lex_append_of_closed closed (.inl (ends stop rfl)) rest
    exact ⟨ts, lexed, conveys_never column same⟩

/-- A constraint that is a condition has its own tokens wherever it stands. -/
theorem lex_condition (stands : StandsAlone k)
    (isCondition : conditionOf? table k = some e) (ends : ∀ c ∈ rest.head?, c = ' ') :
    ∃ ts, lex (Sql.boundChars (taken + 1) (k.pieces table) ++ rest) = ts ++ lex rest ∧
      Conveys taken k e ts := by
  cases k with
  | sql fragment => exact lex_fragment stands isCondition
  | equals column value => exact lex_comparison rfl isCondition ends
  | oneOf column given =>
    cases given with
    | cons value given => exact lex_comparison rfl isCondition ends
    | nil =>
      obtain rfl := Option.some.inj isCondition
      exact lex_never ends
  | between column first last => exact lex_comparison rfl isCondition ends

end Tokens

end Statbook.Sqlite
