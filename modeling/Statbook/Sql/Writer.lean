import Statbook.Sql.Piece

/-!
# Writers

While the text of a statement is written, each value of it is given to a writer, which says what
stands in the text for the value: the value itself as a literal, or a numbered placeholder. In
the second case the writer keeps the values beside the text, in the order of their numbers.
-/

namespace Statbook.Sql

/-- Where the values of a statement go while its text is written. -/
inductive Writer where
  /-- Into the text. -/
  | inline
  /-- Beside the text; these were taken so far. -/
  | bound (values : List SqlValue)
  deriving DecidableEq

/-- Something that is written with its values given to a writer. -/
abbrev Writing (α : Type) := StateM Writer α

namespace Writer

/-- The writer that keeps values beside the text, before the first one. -/
def fresh : Writer := bound []

/-- The values beside the text. -/
def values : Writer → List SqlValue
  | inline => []
  | bound values => values

/-- Gives a value to the writer; the result is what stands in the text for it. -/
def value (value : SqlValue) : Writing String := fun
  | inline => (value.literal, inline)
  | bound values =>
    (String.ofList (placeholder (values.length + 1)), bound (values ++ [value]))

end Writer

end Statbook.Sql
