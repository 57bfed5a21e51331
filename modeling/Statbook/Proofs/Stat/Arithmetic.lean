import Statbook.Registry.Basic
import Statbook.Registry.Formula
import Statbook.Proofs.Backend.Fallible
import Statbook.Proofs.Decimal.Integers

/-!
# Arithmetic on the values of statistics

Calculated statistics combine values by trees of sums, differences, products and quotients. Such a
tree has no value exactly if one of its leaves has none or if it divides by zero somewhere. On
integers without division it is exact as long as every part of it fits into 64 bits, and where a part
does not fit, that part is a float and never an integer.
-/

namespace Statbook

open Decimal

/-- The integer fits into 64 bits with a sign. -/
def Decimal.Fits (n : Int) : Prop :=
  -2 ^ 63 ≤ n ∧ n < 2 ^ 63

instance (n : Int) : Decidable (Fits n) :=
  inferInstanceAs (Decidable (_ ∧ _))

theorem Decimal.int64?_of_fits {n : Int} (fits : Fits n) :
    ∃ value, int64? n = some value ∧ value.toInt = n := by
  have bounds : Int64.minValue.toInt ≤ n ∧ n ≤ Int64.maxValue.toInt :=
    ⟨fits.1, Int.le_of_lt_add_one fits.2⟩
  exact ⟨Int64.ofInt n, if_pos bounds, Int64.toInt_ofInt_of_le fits.1 fits.2⟩

theorem Decimal.int64?_of_not_fits {n : Int} (overflows : ¬Fits n) : int64? n = none := by
  apply if_neg
  intro bounds
  exact overflows ⟨bounds.1, Int.lt_add_one_of_le bounds.2⟩

namespace StatValue

/-- The value is zero as a number: the integer, or one of the two floats. -/
def IsZero : StatValue → Prop
  | null => False
  | int value => value = 0
  | float value => value = 0.0 ∨ value = -0.0

theorem combine_eq_null_iff (whole : Int → Int → Int) (rounded : Float → Float → Float)
    (a b : StatValue) : combine whole rounded a b = null ↔ a = null ∨ b = null := by
  cases a with
  | null => simp [combine, toFloat?]
  | float x => cases b <;> simp [combine, toFloat?]
  | int m =>
    cases b with
    | null => simp [combine, toFloat?]
    | float y => simp [combine, toFloat?]
    | int n =>
      simp only [combine]
      split <;> simp

/-- The divisor is tested after it was made into a float, which finds the same zeros. -/
theorem isZero_iff (b : StatValue) : b.IsZero ↔ ∃ y, b.toFloat? = some y ∧ (y == 0.0) = true := by
  cases b with
  | null => simp [IsZero, toFloat?]
  | int n =>
    have fits : n.toInt.natAbs < 2 ^ 64 := by
      have low := n.le_toInt
      have high := n.toInt_lt
      omega
    have zero := ofInt_beq_zero_iff fits
    simp only [IsZero, toFloat?, floatOfInt, Option.some.injEq, exists_eq_left', zero]
    exact Int64.toInt_inj.symm
  | float y => simp [IsZero, toFloat?, beq_zero_iff]

theorem div_eq_null_iff (a b : StatValue) : a / b = null ↔ a = null ∨ b = null ∨ b.IsZero := by
  show StatValue.div a b = null ↔ _
  rw [isZero_iff]
  unfold StatValue.div
  cases a <;> cases b <;> simp [toFloat?]

end StatValue

namespace Arithmetic

/-- The operation on integers; a division has no integer result. -/
def integer? : Arithmetic → Int → Int → Option Int
  | add, a, b => some (a + b)
  | sub, a, b => some (a - b)
  | mul, a, b => some (a * b)
  | div, _, _ => none

/-- The operation on floats. -/
def rounded : Arithmetic → Float → Float → Float
  | add, x, y => x + y
  | sub, x, y => x - y
  | mul, x, y => x * y
  | div, x, y => x / y

theorem apply_eq_null_iff (operation : Arithmetic) (a b : StatValue) :
    operation.apply a b = .null ↔
      a = .null ∨ b = .null ∨ operation = .div ∧ b.IsZero := by
  cases operation with
  | add =>
    show StatValue.combine (· + ·) (· + ·) a b = .null ↔ _
    simp [StatValue.combine_eq_null_iff]
  | sub =>
    show StatValue.combine (· - ·) (· - ·) a b = .null ↔ _
    simp [StatValue.combine_eq_null_iff]
  | mul =>
    show StatValue.combine (· * ·) (· * ·) a b = .null ↔ _
    simp [StatValue.combine_eq_null_iff]
  | div =>
    show a / b = .null ↔ _
    simp [StatValue.div_eq_null_iff]

/-- Integers are combined exactly if the result fits, and as floats if it does not. -/
theorem apply_int {operation : Arithmetic} {a b : Int64} {n : Int}
    (whole : operation.integer? a.toInt b.toInt = some n) :
    operation.apply (.int a) (.int b) = match int64? n with
      | some value => .int value
      | none => .float (operation.rounded (StatValue.floatOfInt a) (StatValue.floatOfInt b)) := by
  cases operation <;> cases whole <;> rfl

/-- Values combined by operations. -/
inductive Tree where
  | leaf (value : StatValue)
  | node (operation : Arithmetic) (left right : Tree)

namespace Tree

/-- The value of a tree. -/
def value : Tree → StatValue
  | leaf value => value
  | node operation left right => operation.apply left.value right.value

/-- The tree and all trees within it. -/
def parts : Tree → List Tree
  | leaf value => [leaf value]
  | node operation left right => node operation left right :: (left.parts ++ right.parts)

/-- The exact result of a tree of integers without division. -/
def integer? : Tree → Option Int
  | leaf (.int n) => some n.toInt
  | leaf _ => none
  | node operation left right =>
    left.integer?.bind fun a => right.integer?.bind fun b => operation.integer? a b

theorem mem_parts_node {part left right : Tree} {operation : Arithmetic} :
    part ∈ (node operation left right).parts ↔
      part = node operation left right ∨ part ∈ left.parts ∨ part ∈ right.parts := by
  rw [parts, List.mem_cons, List.mem_append]

/-- A tree of integers without division. -/
structure Whole (tree : Tree) : Prop where
  leaves : ∀ value, leaf value ∈ tree.parts → ∃ n, value = .int n
  undivided : ∀ left right, node .div left right ∉ tree.parts

theorem Whole.left {operation : Arithmetic} {left right : Tree}
    (whole : (node operation left right).Whole) : left.Whole where
  leaves value member := whole.leaves value (mem_parts_node.mpr (.inr (.inl member)))
  undivided l r member := whole.undivided l r (mem_parts_node.mpr (.inr (.inl member)))

theorem Whole.right {operation : Arithmetic} {left right : Tree}
    (whole : (node operation left right).Whole) : right.Whole where
  leaves value member := whole.leaves value (mem_parts_node.mpr (.inr (.inr member)))
  undivided l r member := whole.undivided l r (mem_parts_node.mpr (.inr (.inr member)))

/-- The tree has a leaf without a value, or divides by zero. -/
def Lacks (tree : Tree) : Prop :=
  leaf .null ∈ tree.parts ∨
    ∃ left right, node .div left right ∈ tree.parts ∧ right.value.IsZero

theorem lacks_node {operation : Arithmetic} {left right : Tree} :
    (node operation left right).Lacks ↔
      left.Lacks ∨ right.Lacks ∨ operation = .div ∧ right.value.IsZero := by
  unfold Lacks
  simp only [mem_parts_node, node.injEq]
  constructor
  · rintro ((impossible | member | member) | ⟨l, r, (⟨rfl, rfl, rfl⟩ | member | member), zero⟩)
    · cases impossible
    · exact .inl (.inl member)
    · exact .inr (.inl (.inl member))
    · exact .inr (.inr ⟨rfl, zero⟩)
    · exact .inl (.inr ⟨l, r, member, zero⟩)
    · exact .inr (.inl (.inr ⟨l, r, member, zero⟩))
  · rintro ((member | ⟨l, r, member, zero⟩) | (member | ⟨l, r, member, zero⟩) | ⟨rfl, zero⟩)
    · exact .inl (.inr (.inl member))
    · exact .inr ⟨l, r, .inr (.inl member), zero⟩
    · exact .inl (.inr (.inr member))
    · exact .inr ⟨l, r, .inr (.inr member), zero⟩
    · exact .inr ⟨left, right, .inl ⟨rfl, rfl, rfl⟩, zero⟩

theorem value_eq_null_iff (tree : Tree) : tree.value = .null ↔ tree.Lacks := by
  induction tree with
  | leaf value => simp [Tree.value, Lacks, parts, eq_comm]
  | node operation left right left_ih right_ih =>
    rw [Tree.value, apply_eq_null_iff, left_ih, right_ih, lacks_node]

/-- Where every part fits, nothing is ever rounded. -/
theorem value_of_fits {tree : Tree} (whole : tree.Whole)
    (fits : ∀ part ∈ tree.parts, ∀ n, part.integer? = some n → Fits n) :
    ∃ n value, tree.integer? = some n ∧ tree.value = .int value ∧ value.toInt = n := by
  induction tree with
  | leaf value =>
    obtain ⟨n, rfl⟩ := whole.leaves value List.mem_cons_self
    exact ⟨n.toInt, n, rfl, rfl, rfl⟩
  | node operation left right left_ih right_ih =>
    obtain ⟨_, a, leftExact, leftValue, rfl⟩ := left_ih whole.left fun part member =>
      fits part (mem_parts_node.mpr (.inr (.inl member)))
    obtain ⟨_, b, rightExact, rightValue, rfl⟩ := right_ih whole.right fun part member =>
      fits part (mem_parts_node.mpr (.inr (.inr member)))
    obtain ⟨n, result⟩ : ∃ n, operation.integer? a.toInt b.toInt = some n := by
      cases operation with
      | add => exact ⟨_, rfl⟩
      | sub => exact ⟨_, rfl⟩
      | mul => exact ⟨_, rfl⟩
      | div => exact absurd List.mem_cons_self (whole.undivided left right)
    have total : (node operation left right).integer? = some n := by
      rw [Tree.integer?, leftExact, rightExact]
      exact result
    obtain ⟨value, fitted, number⟩ := int64?_of_fits (fits _ List.mem_cons_self n total)
    refine ⟨n, value, total, ?_, number⟩
    rw [Tree.value, leftValue, rightValue, apply_int result, fitted]

end Tree

end Arithmetic

open Arithmetic

/-- The formula combines constants and siblings as the tree combines their values. -/
inductive Formula.Spells (heard : String → StatValue) : Formula → Tree → Prop
  | const (value : StatValue) : Spells heard (.const value) (.leaf value)
  | sibling (name : String) : Spells heard (.sibling name) (.leaf (heard name))
  | arithmetic (operation : Arithmetic) {left right : Formula} {tree tree' : Tree} :
      Spells heard left tree → Spells heard right tree' →
      Spells heard (.arithmetic operation left right) (.node operation tree tree')

/-- What a caller hears of its siblings: an unknown one is null, and so is the caller itself. -/
def Registry.heard (answer : String → Option StatValue) (caller name : String) : StatValue :=
  if name = caller then .null else (answer name).getD .null

/-- A formula goes on with the value of the tree that it spells. -/
theorem Registry.runDerivation_andThen {σ : Type} {answer : String → Option StatValue}
    {caller : String} {formula : Formula} {tree : Tree}
    (spells : formula.Spells (heard answer caller) tree) (names : List String) (filters : Filters)
    (next : StatValue → Derivation) (session : Session σ) :
    runDerivation (fun name => pure (answer name)) names caller filters (formula.andThen next)
        session =
      runDerivation (fun name => pure (answer name)) names caller filters (next tree.value)
        session := by
  induction spells generalizing next with
  | const value => rfl
  | sibling name =>
    have value : Session.outcome (siblingValue (fun name => pure (answer name)) caller name)
        session = (.ok (.ok (heard answer caller name)), session) := by
      unfold heard siblingValue
      by_cases self : name = caller
      · rw [if_pos self, if_pos self]
        rfl
      · rw [if_neg self, if_neg self]
        rfl
    show (Session.outcome _ >>= _) session = _
    rw [Fallible.bind_apply, value]
    rfl
  | arithmetic operation _ _ left_ih right_ih =>
    rw [Formula.andThen, left_ih, right_ih]
    rfl

namespace Arithmetic.Tree

/-- A tree has no value exactly if a leaf of it has none or it divides by zero somewhere. Without
divisions and on integers it is the exact integer if all its parts fit, and a part that combines two
integers and does not fit is a float. A calculated statistic has the value of the tree that its
formula spells. -/
theorem value_null_or_exact :
    (∀ tree : Tree, tree.value = .null ↔ leaf .null ∈ tree.parts ∨
      ∃ left right, node .div left right ∈ tree.parts ∧ right.value.IsZero) ∧
    (∀ tree : Tree, (∀ value, leaf value ∈ tree.parts → ∃ n, value = .int n) →
      (∀ left right, node .div left right ∉ tree.parts) →
      (∀ part ∈ tree.parts, ∀ n, part.integer? = some n → Fits n) →
      ∃ n value, tree.integer? = some n ∧ tree.value = .int value ∧ value.toInt = n) ∧
    (∀ (operation : Arithmetic) (left right : Tree) (a b : Int64) (n : Int),
      left.value = .int a → right.value = .int b →
      operation.integer? a.toInt b.toInt = some n → ¬Fits n →
      (node operation left right).value =
        .float (operation.rounded (StatValue.floatOfInt a) (StatValue.floatOfInt b))) ∧
    ∀ (σ : Type) (answer : String → Option StatValue) (names : List String) (caller : String)
      (filters : Filters) (session : Session σ) (formula : Formula) (tree : Tree),
      formula.Spells (Registry.heard answer caller) tree →
      Registry.runDerivation (fun name => pure (answer name)) names caller filters
        formula.derivation session = (.ok tree.value, session) := by
  refine ⟨value_eq_null_iff, ?_, ?_, ?_⟩
  · intro tree leaves undivided fits
    exact value_of_fits ⟨leaves, undivided⟩ fits
  · intro operation left right a b n leftValue rightValue result overflows
    rw [Tree.value, leftValue, rightValue, apply_int result, int64?_of_not_fits overflows]
  · intro σ answer names caller filters session formula tree spells
    exact Registry.runDerivation_andThen spells names filters _ session

/-- Three times thirty-five and as much as is missing to the greatest integer. -/
def greatest : Tree :=
  node .add (node .mul (leaf (.int 3)) (leaf (.int 35))) (leaf (.int 9223372036854775702))

/-- The greatest integer is reached exactly, the next one is a float, and a negative zero that comes
out of a product leaves a quotient without a value. -/
theorem greatest_value :
    (∃ n value, greatest.integer? = some n ∧ greatest.value = .int value ∧ value.toInt = n) ∧
    greatest.value = .int 9223372036854775807 ∧
    (node .add greatest (leaf (.int 1))).value = .float 9223372036854775808 ∧
    (node .div greatest (node .mul (leaf (.int 0)) (leaf (.float (-1))))).value = .null ∧
    Registry.runDerivation (fun _ => pure (some greatest.value)) ["load", "share"] "share" .empty
      (Formula.arithmetic .sub (.sibling "load") (.sibling "share")).derivation
      (⟨.last, .empty 1, ()⟩ : Session Unit) = (.ok .null, ⟨.last, .empty 1, ()⟩) := by
  obtain ⟨nulls, whole, overflows, derived⟩ := value_null_or_exact
  have listed : greatest.parts = [greatest, node .mul (leaf (.int 3)) (leaf (.int 35)),
      leaf (.int 3), leaf (.int 35), leaf (.int 9223372036854775702)] := rfl
  have leaves : ∀ value, leaf value ∈ greatest.parts → ∃ n, value = .int n := by
    intro value member
    rw [listed] at member
    simp only [greatest, List.mem_cons, leaf.injEq, reduceCtorEq, List.not_mem_nil, false_or,
      or_false] at member
    rcases member with rfl | rfl | rfl <;> exact ⟨_, rfl⟩
  have undivided : ∀ left right, node .div left right ∉ greatest.parts := by
    intro left right
    rw [listed]
    simp [greatest]
  have fits : ∀ part ∈ greatest.parts, ∀ n, part.integer? = some n → Fits n := by
    intro part member n total
    simp only [listed, List.mem_cons, List.not_mem_nil, or_false] at member
    rcases member with rfl | rfl | rfl | rfl | rfl <;> cases total <;> decide
  obtain ⟨n, value, total, reached, number⟩ := whole greatest leaves undivided fits
  have top : value = 9223372036854775807 := by
    apply Int64.toInt_inj.mp
    rw [number]
    exact (Option.some.inj total).symm
  have reached' := top ▸ reached
  refine ⟨⟨n, value, total, reached, number⟩, reached', ?_, ?_, ?_⟩
  · have next := overflows .add greatest (leaf (.int 1)) 9223372036854775807 1 _ reached' rfl rfl
      (by decide)
    rw [next]
    decide +kernel
  · apply (nulls _).mpr
    exact .inr ⟨_, _, List.mem_cons_self, .inr (by decide +kernel)⟩
  · have spells : (Formula.arithmetic .sub (.sibling "load") (.sibling "share")).Spells
        (Registry.heard (fun _ => some greatest.value) "share")
        (node .sub (leaf greatest.value) (leaf .null)) :=
      .arithmetic .sub (.sibling "load") (.sibling "share")
    have null : (node .sub (leaf greatest.value) (leaf .null)).value = .null :=
      (nulls _).mpr (.inl (by simp [parts]))
    rw [← null]
    exact derived Unit _ _ _ _ _ _ _ spells

end Arithmetic.Tree

end Statbook
