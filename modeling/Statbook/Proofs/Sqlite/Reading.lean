import Statbook.Proofs.Sqlite.Token
import Statbook.Sqlite.Expression

namespace Statbook.Sqlite.Reading

variable {t : Token} {ts us : List Token} {fuel : Nat} {a : Unresolved}

/-- The words that make a test of what stands in front of them. -/
def testWords : List String :=
  ["isnull", "notnull", "is", "not", "in", "between"]

/-- The tier of reading at which a token goes on what was taken: 0 for the parts of a column,
1 for tests of order, 2 for the other tests, 3 for `AND`, 4 for `OR`, 5 for lists; 6 for a token
that always ends it. -/
def tier (t : Token) : Nat :=
  if t.lexeme = .mark .dot then 0
  else if (orderTest? t).isSome then 1
  else if (equalityTest? t).isSome || isWordOf testWords t then 2
  else if word? t = some "and" then 3
  else if word? t = some "or" then 4
  else if t.lexeme = .mark .comma then 5
  else 6

/-- What was taken at some tier, or at a lower one, ends in front of the tokens. -/
def Stops (n : Nat) (ts : List Token) : Prop :=
  ∀ t ∈ ts.head?, n < tier t

theorem Stops.lower {m n : Nat} (ends : Stops n ts) (lower : m ≤ n) : Stops m ts :=
  fun t first => Nat.lt_of_le_of_lt lower (ends t first)

theorem stops_nil (n : Nat) : Stops n [] := by
  intro t first
  cases first

theorem stops_cons {n : Nat} : Stops n (t :: ts) ↔ n < tier t := by
  simp [Stops]

theorem orderTest?_eq_none (ends : 1 < tier t) : orderTest? t = none := by
  rw [← Option.not_isSome_iff_eq_none]
  intro test
  simp only [tier, test, if_true] at ends
  split at ends <;> omega

theorem not_test (ends : 2 < tier t) :
    ((equalityTest? t).isSome || isWordOf testWords t) = false := by
  rw [← Bool.not_eq_true]
  intro test
  simp only [tier, test, if_true] at ends
  repeat' split at ends
  all_goals omega

theorem word?_ne (ends : 4 < tier t) : word? t ≠ some "and" ∧ word? t ≠ some "or" := by
  constructor
  all_goals
    intro word
    simp only [tier, word, if_true] at ends
    repeat' split at ends
    all_goals omega

theorem afterMark?_dot (ends : Stops 0 ts) : afterMark? .dot ts = none := by
  cases ts with
  | nil => rfl
  | cons t ts =>
    refine if_neg fun dot => ?_
    have other := stops_cons.mp ends
    simp [tier, dot] at other

theorem moreOrdered_stop (ends : Stops 1 ts) (fuel : Nat) (a : Unresolved) :
    moreOrdered (fuel + 1) a ts = .ok (a, ts) := by
  cases ts with
  | nil => simp only [moreOrdered]
  | cons t ts => simp only [moreOrdered, orderTest?_eq_none (stops_cons.mp ends)]

theorem moreTests_stop (ends : Stops 2 ts) (fuel : Nat) (a : Unresolved) :
    moreTests (fuel + 1) a ts = .ok (a, ts) := by
  cases ts with
  | nil => simp only [moreTests]
  | cons t ts =>
    have other := not_test (stops_cons.mp ends)
    rw [Bool.or_eq_false_iff] at other
    have words : ∀ text ∈ testWords, word? t ≠ some text := by
      intro text member same
      simp [isWordOf, same, member] at other
    simp only [moreTests, Option.not_isSome_iff_eq_none.mp (Bool.eq_false_iff.mp other.1)]
    split <;> first | rfl | exact absurd ‹_› (words _ (by decide))

theorem afterWord?_and (ends : Stops 3 ts) : afterWord? "and" ts = none := by
  cases ts with
  | nil => rfl
  | cons t ts =>
    refine if_neg fun word => ?_
    have other := stops_cons.mp ends
    simp only [tier, word, if_true] at other
    repeat' split at other
    all_goals omega

theorem afterWord?_or (ends : Stops 4 ts) : afterWord? "or" ts = none := by
  cases ts with
  | nil => rfl
  | cons t ts => exact if_neg (word?_ne (stops_cons.mp ends)).2

theorem moreConjuncts_stop (ends : Stops 3 ts) (fuel : Nat) (a : Unresolved) :
    moreConjuncts (fuel + 1) a ts = .ok (a, ts) := by
  simp only [moreConjuncts, afterWord?_and ends]

theorem moreDisjuncts_stop (ends : Stops 4 ts) (fuel : Nat) (a : Unresolved) :
    moreDisjuncts (fuel + 1) a ts = .ok (a, ts) := by
  simp only [moreDisjuncts, afterWord?_or ends]

/-- An operand with nothing after it is an expression. -/
theorem disjunction_of_operand (read : operand (fuel + 1) ts = .ok (a, us))
    (other : afterWord? "not" ts = none) (ends : Stops 4 us) :
    disjunction (fuel + 5) ts = .ok (a, us) := by
  have ordered : ordered (fuel + 2) ts = .ok (a, us) := by
    simp only [Reading.ordered, read, bind, Except.bind, moreOrdered_stop (ends.lower (by omega))]
  have negation : negation (fuel + 3) ts = .ok (a, us) := by
    simp only [Reading.negation, other, ordered, bind, Except.bind,
      moreTests_stop (ends.lower (by omega))]
  have conjunction : conjunction (fuel + 4) ts = .ok (a, us) := by
    simp only [Reading.conjunction, negation, bind, Except.bind,
      moreConjuncts_stop (ends.lower (by omega))]
  simp only [disjunction, conjunction, bind, Except.bind, moreDisjuncts_stop ends]

end Statbook.Sqlite.Reading
