import Statbook.Proofs.Sqlite.Alongside

/-!
# What is read again in another statement

Reading an expression does not look beyond its end. Where the same tokens stand in another
statement, the same expression is read off them, up to the places where they stand, if what follows
them there does not go on with it. The depth that this takes is bounded by the number of tokens that
are taken.
-/

namespace Statbook.Sqlite.Reading

variable {values values' : List Cell} {last last' : List Token} {fuel : Nat} {α β : Type}

/-- What a reading takes of one statement, at least `gain` tokens, is taken of another one with the
same tokens, too. Fuel for eight steps a token and `cost` more is enough there. -/
def Carries (values values' : List Cell) (last last' : List Token) (gain cost : Nat)
    (read : Reading α) (read' : Nat → Reading α) (same : α → α → Prop) : Prop :=
  ∀ ⦃ts : List Token⦄ ⦃a : α⦄ ⦃us : List Token⦄, read ts = .ok (a, us) →
    ∀ ⦃ts' : List Token⦄, Alongside values values' last last' ts ts' →
      us.length + gain ≤ ts.length ∧
      ∃ a' us', same a a' ∧ Alongside values values' last last' us us' ∧
        ∀ fuel', 8 * ts.length + cost ≤ fuel' + 8 * us.length → read' fuel' ts' = .ok (a', us')

/-- Everything that is read with some fuel is read again in the other statement. -/
structure Carried (values values' : List Cell) (last last' : List Token) (fuel : Nat) : Prop where
  disjunction : Carries values values' last last' 1 5 (disjunction fuel) Reading.disjunction
    (Alike values values')
  moreDisjuncts : ∀ {a a'}, Alike values values' a a' → Carries values values' last last' 0 1
    (moreDisjuncts fuel a) (Reading.moreDisjuncts · a') (Alike values values')
  conjunction : Carries values values' last last' 1 4 (conjunction fuel) Reading.conjunction
    (Alike values values')
  moreConjuncts : ∀ {a a'}, Alike values values' a a' → Carries values values' last last' 0 1
    (moreConjuncts fuel a) (Reading.moreConjuncts · a') (Alike values values')
  negation : Carries values values' last last' 1 3 (negation fuel) Reading.negation
    (Alike values values')
  moreTests : ∀ {a a'}, Alike values values' a a' → Carries values values' last last' 0 2
    (moreTests fuel a) (Reading.moreTests · a') (Alike values values')
  membership : ∀ {a a'}, Alike values values' a a' → Carries values values' last last' 1 1
    (membership fuel a) (Reading.membership · a') (Alike values values')
  expressions : Carries values values' last last' 1 6 (expressions fuel) Reading.expressions
    (List.Forall₂ (Alike values values'))
  ordered : Carries values values' last last' 1 2 (ordered fuel) Reading.ordered
    (Alike values values')
  moreOrdered : ∀ {a a'}, Alike values values' a a' → Carries values values' last last' 0 1
    (moreOrdered fuel a) (Reading.moreOrdered · a') (Alike values values')
  operand : Carries values values' last last' 1 1 (operand fuel) Reading.operand
    (Alike values values')

/-- What is read with one unit of fuel less is read. -/
theorem of_unfolds {read next : Nat → α} {x : α} {m n k : Nat}
    (unfolds : ∀ fuel, read (fuel + 1) = next fuel) (again : ∀ fuel, m ≤ fuel + k → next fuel = x)
    (more : m + 1 ≤ n) (positive : k < n) : ∀ fuel, n ≤ fuel + k → read fuel = x := by
  intro fuel enough
  cases fuel with
  | zero => omega
  | succ fuel =>
    rw [unfolds]
    exact again fuel (by omega)

/-- What is taken again with one unit of fuel less is taken again. -/
theorem retaken {same : α → α → Prop} {a : α} {us : List Token}
    {read next : Nat → Except (Option Token) (α × List Token)} {m n gain gain' cost cost' : Nat}
    (rest : us.length + gain ≤ m ∧ ∃ a' us', same a a' ∧ Alongside values values' last last' us us' ∧
      ∀ fuel', 8 * m + cost ≤ fuel' + 8 * us.length → next fuel' = .ok (a', us'))
    (unfolds : ∀ fuel, read (fuel + 1) = next fuel) (gains : m + gain' ≤ n + gain)
    (costs : 8 * m + cost < 8 * n + cost') :
    us.length + gain' ≤ n ∧ ∃ a' us', same a a' ∧ Alongside values values' last last' us us' ∧
      ∀ fuel', 8 * n + cost' ≤ fuel' + 8 * us.length → read fuel' = .ok (a', us') := by
  obtain ⟨length, a', us', alike, along, again⟩ := rest
  exact ⟨by omega, a', us', alike, along, of_unfolds unfolds again costs (by omega)⟩

/-- Where nothing is taken, nothing is taken again. -/
theorem untaken {same : α → α → Prop} {a a' : α} {ts ts' : List Token}
    {read : Nat → Except (Option Token) (α × List Token)} {cost : Nat} (alike : same a a')
    (along : Alongside values values' last last' ts ts')
    (unfolds : ∀ fuel, read (fuel + 1) = .ok (a', ts')) (positive : 0 < cost) :
    ts.length + 0 ≤ ts.length ∧
      ∃ b' us', same a b' ∧ Alongside values values' last last' ts us' ∧
        ∀ fuel', 8 * ts.length + cost ≤ fuel' + 8 * ts.length → read fuel' = .ok (b', us') := by
  refine ⟨Nat.le_refl _, a', ts', alike, along, fun fuel' enough => ?_⟩
  cases fuel' with
  | zero => omega
  | succ fuel' => exact unfolds fuel'

section Shapes

variable {gain gain' cost cost' : Nat} {read next : Reading α} {read' next' : Nat → Reading α}
  {more : α → Reading β} {more' : α → Nat → Reading β} {same : α → α → Prop} {same' : β → β → Prop}

theorem Carries.mono (carries : Carries values values' last last' gain cost read read' same)
    (gains : gain' ≤ gain) (costs : cost ≤ cost') :
    Carries values values' last last' gain' cost' read read' same := by
  intro ts a us taken ts' along
  obtain ⟨length, a', us', alike, along, again⟩ := carries taken along
  exact ⟨by omega, a', us', alike, along, fun fuel' enough => again fuel' (by omega)⟩

/-- A unit of fuel is spent before something is taken. -/
theorem Carries.oneMore (carries : Carries values values' last last' gain cost next next' same)
    (unfolds : ∀ ts, read ts = next ts) (unfolds' : ∀ fuel ts, read' (fuel + 1) ts = next' fuel ts) :
    Carries values values' last last' gain (cost + 1) read read' same := by
  intro ts a us taken ts' along
  rw [unfolds] at taken
  exact retaken (carries taken along) (fun fuel => unfolds' fuel ts') (by omega) (by omega)

/-- Something is made of what was taken before. -/
theorem Carries.pure {a a' : α} (alike : same a a') :
    Carries values values' last last' 0 0 (fun ts => .ok (a, ts)) (fun _ ts => .ok (a', ts)) same := by
  intro ts b us taken ts' along
  cases taken
  exact ⟨Nat.le_refl _, a', ts', alike, along, fun _ _ => rfl⟩

/-- One thing after another. The second one may use up the steps for the tokens of the first one. -/
theorem Carries.bind (carries : Carries values values' last last' gain cost read read' same)
    (carriesMore : ∀ {a a'}, same a a' →
      Carries values values' last last' gain' cost' (more a) (more' a') same') :
    Carries values values' last last' (gain + gain') (max cost (cost' - 8 * gain))
      (fun ts => read ts >>= fun (a, ts) => more a ts)
      (fun fuel ts => read' fuel ts >>= fun (a, ts) => more' a fuel ts) same' := by
  intro ts b us taken ts' along
  obtain ⟨⟨a, vs⟩, isFirst, isMore⟩ := bind_eq_ok_iff.mp taken
  obtain ⟨length, a', vs', alike, along, again⟩ := carries isFirst along
  obtain ⟨length', b', us', alike, along, again'⟩ := carriesMore alike isMore along
  refine ⟨by omega, b', us', alike, along, fun fuel' enough => ?_⟩
  exact bind_eq_ok_iff.mpr ⟨_, again fuel' (by omega), again' fuel' (by omega)⟩

/-- One thing after a word or a mark, and another thing where that is missing. -/
theorem Carries.after {after? : List Token → Option (List Token)}
    {other : Reading α} {other' : Nat → Reading α}
    (found : ∀ {ts ts'}, Alongside values values' last last' ts ts' →
      after? ts = none ∧ after? ts' = none ∨
        ∃ us us', after? ts = some us ∧ after? ts' = some us' ∧
          ts.length = us.length + 1 ∧ Alongside values values' last last' us us')
    (carries : Carries values values' last last' gain cost read read' same)
    (carriesOther : Carries values values' last last' gain' cost' other other' same) :
    Carries values values' last last' (min gain (gain' + 1)) (max cost (cost' - 8))
      (fun ts => match after? ts with
        | none => read ts
        | some us => other us)
      (fun fuel ts => match after? ts with
        | none => read' fuel ts
        | some us => other' fuel us) same := by
  intro ts a us taken ts' along
  dsimp only at taken ⊢
  obtain ⟨missing, missing'⟩ | ⟨vs, vs', isAfter, isAfter', length, along'⟩ := found along
  · rw [missing] at taken
    rw [missing']
    obtain ⟨length, a', us', alike, along, again⟩ := carries taken along
    exact ⟨by omega, a', us', alike, along, fun fuel' enough => again fuel' (by omega)⟩
  · rw [isAfter] at taken
    rw [isAfter']
    obtain ⟨length', a', us', alike, along, again⟩ := carriesOther taken along'
    exact ⟨by omega, a', us', alike, along, fun fuel' enough => again fuel' (by omega)⟩

/-- What takes something and does not start with a query. -/
theorem Carries.noQuery (carries : Carries values values' last last' gain cost read read' same)
    (positive : 0 < gain) : Carries values values' last last' gain cost
      (fun ts => if ts.head?.any (isWordOf queryWords) then fail (ts.drop 1) else read ts)
      (fun fuel ts => if ts.head?.any (isWordOf queryWords) then fail (ts.drop 1)
        else read' fuel ts) same := by
  intro ts a us taken ts' along
  by_cases query : ts.head?.any (isWordOf queryWords)
  · simp [query, fail] at taken
  · simp only [query, Bool.false_eq_true, if_false] at taken
    obtain ⟨length, a', us', alike, along', again⟩ := carries taken along
    have query' : ts'.head?.any (isWordOf queryWords) = false := by
      cases along with
      | ended =>
        have whole := along'.length_le
        omega
      | cons like _ => simpa [like.isWordOf] using query
    refine ⟨length, a', us', alike, along', fun fuel' enough => ?_⟩
    simp only [query', Bool.false_eq_true, if_false]
    exact again fuel' enough

end Shapes

section Parts

variable {t : Token}

/-- Takes the bounds after `BETWEEN`. -/
def bounds (fuel : Nat) (a : Unresolved) : Reading Unresolved := fun ts => do
  let (first, ts) ← ordered fuel ts
  let (_, ts) ← keyword "and" ts
  let (last, ts) ← ordered fuel ts
  pure (a.isBetween first last, ts)

/-- Takes the items after `IN` and a parenthesis. -/
def items (fuel : Nat) (a : Unresolved) : Reading Unresolved := fun ts =>
  match afterMark? .closing ts with
  | some ts => pure (a.isOneOf [], ts)
  | none =>
    if ts.head?.any (isWordOf queryWords) then fail (ts.drop 1)
    else do
      let (items, ts) ← expressions fuel ts
      let (_, ts) ← mark .closing ts
      pure (a.isOneOf items, ts)

/-- Goes on after the first expression between parentheses. Others are taken and then refused. -/
def closing (fuel : Nat) (e : Unresolved) : Reading Unresolved := fun ts =>
  match afterMark? .comma ts with
  | none => do
    let (_, ts) ← mark .closing ts
    pure (e, ts)
  | some others => do
    let (_, others) ← expressions fuel others
    let _ ← mark .closing others
    fail ts

/-- Takes an expression after a parenthesis. -/
def group (fuel : Nat) : Reading Unresolved := fun ts =>
  if ts.head?.any (isWordOf queryWords) then fail (ts.drop 1)
  else do
    let (e, ts) ← disjunction fuel ts
    closing fuel e ts

theorem membership_eq (fuel : Nat) (a : Unresolved) (ts : List Token) :
    membership (fuel + 1) a ts = match afterWord? "between" ts with
      | none => do
        let (_, ts) ← keyword "in" ts
        let (_, ts) ← mark .opening ts
        items fuel a ts
      | some ts => bounds fuel a ts := by
  rw [membership]
  cases afterWord? "between" ts <;> rfl

theorem operand_opening (opening : t.lexeme = .mark .opening) (fuel : Nat) (ts : List Token) :
    operand (fuel + 1) (t :: ts) = group fuel ts := by
  obtain ⟨lexeme, written, onward⟩ := t
  cases opening
  rfl

theorem operand_plus (plus : t.lexeme = .mark .plus) (fuel : Nat) (ts : List Token) :
    operand (fuel + 1) (t :: ts) = operand fuel ts >>= fun (e, ts) => .ok (e.positive, ts) := by
  obtain ⟨lexeme, written, onward⟩ := t
  cases plus
  rfl

theorem operand_minus (minus : t.lexeme = .mark .minus) (fuel : Nat) (ts : List Token) :
    operand (fuel + 1) (t :: ts) = operand fuel ts >>= fun (e, ts) => .ok (e.negated, ts) := by
  obtain ⟨lexeme, written, onward⟩ := t
  cases minus
  rfl

/-- An operand that starts with another token than a parenthesis or a sign. -/
theorem operand_other (other : t.lexeme ≠ .mark .opening ∧ t.lexeme ≠ .mark .plus ∧
      t.lexeme ≠ .mark .minus) (fuel : Nat) (ts : List Token) :
    operand (fuel + 1) (t :: ts) = if word? t = some "not"
      then negation fuel ts >>= fun (e, ts) => .ok (.not e, ts) else atom (t :: ts) := by
  simp only [operand]
  split
  · exact absurd ‹_› other.1
  · exact absurd ‹_› other.2.1
  · exact absurd ‹_› other.2.2
  · rfl

end Parts

section Heads

variable (ends : Ends last last')

include ends

theorem carries_keyword {k : String} (other : k ≠ "where") :
    Carries values values' last last' 1 0 (keyword k) (fun _ => keyword k) fun _ _ => True := by
  intro ts a us taken ts' along
  obtain ⟨length, us', taken', along⟩ := keyword_alongside ends other along taken
  exact ⟨by omega, (), us', trivial, along, fun _ _ => taken'⟩

theorem carries_mark (m : Mark) :
    Carries values values' last last' 1 0 (mark m) (fun _ => mark m) fun _ _ => True := by
  intro ts a us taken ts' along
  obtain ⟨length, us', taken', along⟩ := mark_alongside ends along taken
  exact ⟨by omega, (), us', trivial, along, fun _ _ => taken'⟩

theorem carries_atom : Carries values values' last last' 1 0 atom (fun _ => atom)
    (Alike values values') := by
  intro ts a us taken ts' along
  obtain ⟨length, a', us', taken', alike, along⟩ := atom_alongside ends along taken
  exact ⟨length, a', us', alike, along, fun _ _ => taken'⟩

theorem carries_closing (fuel : Nat) {e e' : Unresolved} (alike : Alike values values' e e') :
    Carries values values' last last' 1 0 (closing fuel e) (closing · e') (Alike values values') := by
  intro ts b us taken ts' along
  obtain ⟨missing, missing'⟩ | ⟨others, others', found, -, -, -⟩ :=
    afterMark?_alongside ends (m := .comma) (by decide) along
  · simp only [closing, missing] at taken
    simp only [closing, missing']
    exact ((carries_mark ends .closing).bind fun _ => .pure alike) taken along
  · simp only [closing, found] at taken
    obtain ⟨_, -, taken⟩ := bind_eq_ok_iff.mp taken
    obtain ⟨_, -, taken⟩ := bind_eq_ok_iff.mp taken
    cases taken

end Heads

section Steps

variable (ends : Ends last last') (carried : Carried values values' last last' fuel)
  {a a' : Unresolved}

include carried

theorem carries_disjunction : Carries values values' last last' 1 5 (disjunction (fuel + 1))
    disjunction (Alike values values') :=
  ((carried.conjunction.bind carried.moreDisjuncts).oneMore (fun _ => rfl) fun _ _ => rfl).mono
    (by omega) (by omega)

theorem carries_conjunction : Carries values values' last last' 1 4 (conjunction (fuel + 1))
    conjunction (Alike values values') :=
  ((carried.negation.bind carried.moreConjuncts).oneMore (fun _ => rfl) fun _ _ => rfl).mono
    (by omega) (by omega)

theorem carries_ordered : Carries values values' last last' 1 2 (ordered (fuel + 1)) ordered
    (Alike values values') :=
  ((carried.operand.bind carried.moreOrdered).oneMore (fun _ => rfl) fun _ _ => rfl).mono
    (by omega) (by omega)

include ends

theorem carries_moreDisjuncts (alike : Alike values values' a a') :
    Carries values values' last last' 0 1 (moreDisjuncts (fuel + 1) a) (moreDisjuncts · a')
      (Alike values values') := by
  have others := carried.conjunction.bind fun alike' => carried.moreDisjuncts (alike.or alike')
  have either := Carries.after (afterWord?_alongside ends (k := "or") (by decide)) (.pure alike)
    others
  exact (either.oneMore (fun _ => rfl) fun _ _ => rfl).mono (by omega) (by omega)

theorem carries_moreConjuncts (alike : Alike values values' a a') :
    Carries values values' last last' 0 1 (moreConjuncts (fuel + 1) a) (moreConjuncts · a')
      (Alike values values') := by
  have others := carried.negation.bind fun alike' => carried.moreConjuncts (alike.and alike')
  have either := Carries.after (afterWord?_alongside ends (k := "and") (by decide)) (.pure alike)
    others
  exact (either.oneMore (fun _ => rfl) fun _ _ => rfl).mono (by omega) (by omega)

theorem carries_negation : Carries values values' last last' 1 3 (negation (fuel + 1)) negation
    (Alike values values') := by
  have tests := carried.ordered.bind carried.moreTests
  have opposite := carried.negation.bind fun alike => .pure alike.not
  have either := Carries.after (afterWord?_alongside ends (k := "not") (by decide)) tests
    opposite
  refine (either.oneMore (fun ts => ?_) fun fuel' ts => ?_).mono (by omega) (by omega)
  · rw [negation]
    cases afterWord? "not" ts <;> rfl
  · rw [negation]
    cases afterWord? "not" ts <;> rfl

theorem carries_moreOrdered (alike : Alike values values' a a') :
    Carries values values' last last' 0 1 (moreOrdered (fuel + 1) a) (moreOrdered · a')
      (Alike values values') := by
  intro ts b us taken ts' along
  cases along with
  | ended =>
    rw [moreOrdered_stop (.of_closes ends.closes (by omega))] at taken
    cases taken
    exact untaken alike .ended
      (fun _ => moreOrdered_stop (.of_closes ends.closed (by omega)) _ _) Nat.one_pos
  | @cons t t' ts ts' like along =>
    simp only [moreOrdered] at taken
    cases test : orderTest? t with
    | none =>
      simp only [test] at taken
      cases taken
      exact untaken alike (.cons like along)
        (fun _ => by simp only [moreOrdered, like.orderTest?, test]) Nat.one_pos
    | some comparison =>
      simp only [test] at taken
      have others := carried.operand.bind fun alike' =>
        carried.moreOrdered (alike.compare comparison alike')
      exact retaken (others taken along)
        (fun _ => by simp only [moreOrdered, like.orderTest?, test])
        (by rw [List.length_cons]; omega) (by rw [List.length_cons]; omega)

theorem carries_expressions : Carries values values' last last' 1 6 (expressions (fuel + 1))
    expressions (List.Forall₂ (Alike values values')) := by
  have others {e e' : Unresolved} (alike : Alike values values' e e') :=
    Carries.after (afterMark?_alongside ends (m := .comma) (by decide))
      (Carries.pure (List.Forall₂.cons alike .nil))
      (carried.expressions.bind fun alike' => .pure (.cons alike alike'))
  have several := carried.disjunction.bind others
  exact (several.oneMore (fun _ => rfl) fun _ _ => rfl).mono (by omega) (by omega)

theorem carries_bounds (alike : Alike values values' a a') :
    Carries values values' last last' 3 2 (bounds fuel a) (bounds · a') (Alike values values') := by
  have taken := carried.ordered.bind fun lower =>
    (carries_keyword ends (k := "and") (by decide)).bind fun _ =>
      carried.ordered.bind fun upper => .pure (alike.isBetween lower upper)
  exact taken.mono (by omega) (by omega)

theorem carries_items (alike : Alike values values' a a') :
    Carries values values' last last' 1 6 (items fuel a) (items · a') (Alike values values') := by
  have several := (carried.expressions.bind fun alike' =>
    (carries_mark ends .closing).bind fun _ => .pure (alike.isOneOf alike')).noQuery (by omega)
  intro ts b us taken ts' along
  cases along with
  | ended =>
    -- The other statement may close a parenthesis here, but nothing is read in front of it.
    simp only [items, afterMark?_of_blocks ends.blocked] at taken
    obtain ⟨length, a', us', alike, along, -⟩ := several taken .ended
    have whole := along.length_le
    omega
  | @cons t t' ts ts' like along =>
    by_cases isClosing : t.lexeme = .mark .closing
    · simp only [items, afterMark?, if_pos isClosing] at taken
      cases taken
      refine ⟨Nat.le_refl _, a'.isOneOf [], ts', alike.isOneOf .nil, along, fun fuel' _ => ?_⟩
      simp only [items, afterMark?, if_pos (like.lexeme.trans isClosing)]
      rfl
    · have other : ¬t'.lexeme = .mark .closing := like.lexeme.symm ▸ isClosing
      simp only [items, afterMark?, if_neg isClosing] at taken
      simp only [items, afterMark?, if_neg other]
      exact several.mono (by omega) (by omega) taken (.cons like along)

theorem carries_membership (alike : Alike values values' a a') :
    Carries values values' last last' 1 1 (membership (fuel + 1) a) (membership · a')
      (Alike values values') := by
  have isIn := (carries_keyword ends (k := "in") (by decide)).bind fun _ =>
    (carries_mark ends .opening).bind fun _ => carries_items ends carried alike
  have either := Carries.after (afterWord?_alongside ends (k := "between") (by decide)) isIn
    (carries_bounds ends carried alike)
  exact (either.oneMore (membership_eq fuel a) fun fuel' => membership_eq fuel' a').mono (by omega)
    (by omega)

/-- What `IN`, `BETWEEN` or one of the other words for a test makes of an operand is taken again, and
then the tests of that. -/
theorem carries_moreTests (alike : Alike values values' a a') :
    Carries values values' last last' 0 2 (moreTests (fuel + 1) a) (moreTests · a')
      (Alike values values') := by
  have null (negated : Bool) := (carries_keyword ends (k := "null") (by decide)).bind fun _ =>
    carried.moreTests (alike.isNull.negatedIf negated)
  have nullTest := Carries.after (afterWord?_alongside ends (k := "not") (by decide)) (null false)
    (null true)
  have member := (carried.membership alike).bind carried.moreTests
  have noMember := (carried.membership alike).bind fun alike' => carried.moreTests alike'.not
  have opposite := Carries.after (afterWord?_alongside ends (k := "null") (by decide)) noMember
    (carried.moreTests alike.isNull.not)
  intro ts b us taken ts' along
  cases along with
  | ended =>
    rw [moreTests_stop (.of_closes ends.closes (by omega))] at taken
    cases taken
    exact untaken alike .ended
      (fun _ => moreTests_stop (.of_closes ends.closed (by omega)) _ _) Nat.two_pos
  | @cons t t' ts ts' like along =>
    have whole := Alongside.cons like along
    have one : (t :: ts).length = ts.length + 1 := rfl
    simp only [moreTests] at taken
    cases test : equalityTest? t with
    | some comparison =>
      simp only [test] at taken
      have compared := carried.ordered.bind fun alike' =>
        carried.moreTests (alike.compare comparison alike')
      exact retaken (compared taken along)
        (fun _ => by simp only [moreTests, like.equalityTest?, test]) (by omega) (by omega)
    | none =>
      simp only [test] at taken
      split at taken
      · rename_i word
        exact retaken (carried.moreTests alike.isNull taken along)
          (fun _ => by simp only [moreTests, like.equalityTest?, test, like.word?, word])
          (by omega) (by omega)
      · rename_i word
        exact retaken (carried.moreTests alike.isNull.not taken along)
          (fun _ => by simp only [moreTests, like.equalityTest?, test, like.word?, word])
          (by omega) (by omega)
      · rename_i word
        refine retaken (nullTest ?_ along) (fun _ => ?_) (by omega) (by omega)
        · simp only [← taken]
          cases afterWord? "not" ts <;> rfl
        · simp only [moreTests, like.equalityTest?, test, like.word?, word]
          cases afterWord? "not" ts' <;> rfl
      · rename_i word
        refine retaken (opposite ?_ along) (fun _ => ?_) (by omega) (by omega)
        · simp only [← taken]
          cases afterWord? "null" ts <;> rfl
        · simp only [moreTests, like.equalityTest?, test, like.word?, word]
          cases afterWord? "null" ts' <;> rfl
      · rename_i word
        exact retaken (member taken whole)
          (fun _ => by simp only [moreTests, like.equalityTest?, test, like.word?, word])
          (by omega) (by omega)
      · rename_i word
        exact retaken (member taken whole)
          (fun _ => by simp only [moreTests, like.equalityTest?, test, like.word?, word])
          (by omega) (by omega)
      · cases taken
        exact untaken alike whole
          (fun _ => by simp only [moreTests, like.equalityTest?, test, like.word?]) Nat.two_pos

theorem carries_group :
    Carries values values' last last' 2 5 (group fuel) group (Alike values values') :=
  ((carried.disjunction.bind (carries_closing ends fuel)).noQuery (by omega)).mono (by omega)
    (by omega)

theorem carries_operand : Carries values values' last last' 1 1 (operand (fuel + 1)) operand
    (Alike values values') := by
  have opposite := carried.negation.bind fun alike => .pure alike.not
  have positive := carried.operand.bind fun alike => .pure alike.positive
  have negative := carried.operand.bind fun alike => .pure alike.negated
  intro ts b us taken ts' along
  cases along with
  | ended =>
    cases last with
    | nil => simp [operand, fail] at taken
    | cons t ts =>
      have blocks := ends.blocked t rfl
      rw [operand_other ⟨lexeme_of_blocks blocks _, lexeme_of_blocks blocks _,
        lexeme_of_blocks blocks _⟩, if_neg (word?_of_closes (.inl blocks) (by decide))] at taken
      exact absurd taken (atom_of_blocks blocks)
  | @cons t t' ts ts' like along =>
    have one : (t :: ts).length = ts.length + 1 := rfl
    by_cases opening : t.lexeme = .mark .opening
    · rw [operand_opening opening] at taken
      exact retaken (carries_group ends carried taken along)
        (fun _ => operand_opening (like.lexeme.trans opening) _ _) (by omega) (by omega)
    by_cases plus : t.lexeme = .mark .plus
    · rw [operand_plus plus] at taken
      exact retaken (positive taken along)
        (fun _ => operand_plus (like.lexeme.trans plus) _ _) (by omega) (by omega)
    by_cases minus : t.lexeme = .mark .minus
    · rw [operand_minus minus] at taken
      exact retaken (negative taken along)
        (fun _ => operand_minus (like.lexeme.trans minus) _ _) (by omega) (by omega)
    rw [operand_other ⟨opening, plus, minus⟩] at taken
    have other := @operand_other t' (by rw [like.lexeme]; exact ⟨opening, plus, minus⟩)
    by_cases word : word? t = some "not"
    · rw [if_pos word] at taken
      exact retaken (opposite taken along)
        (fun _ => by rw [other, if_pos (like.word?.trans word)]) (by omega) (by omega)
    · rw [if_neg word] at taken
      exact retaken (carries_atom ends taken (.cons like along))
        (fun _ => by rw [other, if_neg (like.word?.symm ▸ word)]) (by omega) (by omega)

end Steps

/-- Whatever is read with some fuel is read again where the same tokens stand in another statement. -/
theorem carried (ends : Ends last last') (fuel : Nat) : Carried values values' last last' fuel := by
  induction fuel with
  | zero =>
    have nothing {α : Type} {gain cost : Nat} {read : Reading α} {read' : Nat → Reading α}
        {same : α → α → Prop} (fails : ∀ ts, read ts = fail ts) :
        Carries values values' last last' gain cost read read' same := by
      intro ts a us taken
      rw [fails] at taken
      cases taken
    constructor
    all_goals
      intros
      refine nothing fun ts => ?_
    · simp only [disjunction]
    · simp only [moreDisjuncts]
    · simp only [conjunction]
    · simp only [moreConjuncts]
    · simp only [negation]
    · simp only [moreTests]
    · simp only [membership]
    · simp only [expressions]
    · simp only [ordered]
    · simp only [moreOrdered]
    · simp only [operand]
  | succ fuel ih =>
    exact ⟨carries_disjunction ih, carries_moreDisjuncts ends ih, carries_conjunction ih,
      carries_moreConjuncts ends ih, carries_negation ends ih, carries_moreTests ends ih,
      carries_membership ends ih, carries_expressions ends ih, carries_ordered ih,
      carries_moreOrdered ends ih, carries_operand ends ih⟩

theorem expression_alongside (ends : Ends last last') {ts ts' us : List Token} {e : Unresolved}
    (along : Alongside values values' last last' ts ts') (taken : expression ts = .ok (e, us)) :
    us.length < ts.length ∧ ∃ e' us', expression ts' = .ok (e', us') ∧ Alike values values' e e' ∧
      Alongside values values' last last' us us' := by
  obtain ⟨length, e', us', alike, along', again⟩ := (carried ends (fuelFor ts)).disjunction taken along
  have lengths := along.length_eq
  have left := along'.length_le
  exact ⟨length, e', us', again (fuelFor ts') (by unfold fuelFor; omega), alike, along'⟩

end Statbook.Sqlite.Reading
