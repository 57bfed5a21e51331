import Statbook.Text.Pieces
import Statbook.Filter.Infer

/-!
# Filters as arguments

A filter is given as a key and a value with a sign of equality between them. The value gets
its type from how it is written; the key loses the blanks around it.
-/

namespace Statbook

/-- What is wrong with the text of a filter. -/
inductive FilterFault where
  /-- There is no sign of equality. -/
  | noSign (raw : String)
  /-- There is nothing but blanks before the sign. -/
  | emptyKey (raw : String)
  deriving DecidableEq, Repr

/-- A fault as it is told. -/
def FilterFault.text : FilterFault → String
  | noSign raw => "expected key=value, got `" ++ raw ++ "`"
  | emptyKey raw => "empty filter key in `" ++ raw ++ "`"

/-- The key and the value of a filter. -/
def readFilter (raw : String) : Except FilterFault (String × FilterValue) :=
  match Text.splitFirst '=' raw.toList with
  | none => .error (.noSign raw)
  | some (before, after) =>
    let key := Text.trim (String.ofList before)
    if key = "" then .error (.emptyKey raw)
    else .ok (key, FilterValue.infer (String.ofList after))

end Statbook
