import Statbook.Registry.Definition

/-!
# Formulas

Calculations that can be written down: arithmetic over siblings, constants and filters. A
formula is worked out from left to right, and the first error ends it.
-/

namespace Statbook

/-- The operations of arithmetic. -/
inductive Arithmetic where
  | add
  | sub
  | mul
  | div
  deriving DecidableEq, Repr

/-- The result of an operation. -/
def Arithmetic.apply : Arithmetic → StatValue → StatValue → StatValue
  | add, a, b => a + b
  | sub, a, b => a - b
  | mul, a, b => a * b
  | div, a, b => a / b

/-- A calculation on the siblings of a statistic. -/
inductive Formula where
  | const (value : StatValue)
  | sibling (name : String)
  | arithmetic (operation : Arithmetic) (left right : Formula)
  /-- The second value where the first one is null. -/
  | orElse (first second : Formula)
  /-- The sum of all siblings. -/
  | sumOfAll
  /-- The number of all siblings. -/
  | countOfAll
  /-- The integer of a filter. -/
  | filterInt (key : String)
  | fail (error : StatError)

namespace Formula

/-- The sum of values, from zero on. -/
def total (values : List (String × StatValue)) : StatValue :=
  values.foldl (fun sum pair => sum + pair.2) (.int 0)

/-- Goes on with the value of an answer, or ends with its error. -/
def onward {α : Type} (next : α → Derivation) : Except StatError α → Derivation
  | .ok value => next value
  | .error error => .done (.error error)

/-- The calculation of a formula, which goes on with its value. -/
def andThen : Formula → (StatValue → Derivation) → Derivation
  | const value, next => next value
  | sibling name, next => .sibling name (onward next)
  | arithmetic operation left right, next =>
    left.andThen fun a => right.andThen fun b => next (operation.apply a b)
  | orElse first second, next =>
    first.andThen fun value => if value.isNull then second.andThen next else next value
  | sumOfAll, next => .siblings (onward fun values => next (total values))
  | countOfAll, next => .siblings (onward fun values => next (.int (Int64.ofNat values.length)))
  | filterInt key, next =>
    .filters fun filters =>
      match (filters.get? key).bind FilterValue.int? with
      | some value => next (.int value)
      | none => next .null
  | fail error, _ => .done (.error error)

/-- The calculation of a formula. -/
def derivation (formula : Formula) : Derivation :=
  formula.andThen fun value => .done (.ok value)

end Formula

end Statbook
