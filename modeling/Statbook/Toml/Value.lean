/-!
# TOML values

What a TOML document holds. A table remembers how it came about, because that decides whether
a later part of the document may still add to it.
-/

namespace Statbook.Toml

/-- How a table came about. -/
inductive Origin where
  /-- It has a header of its own. -/
  | header
  /-- It stands between braces. -/
  | inline
  /-- Dotted keys lead through it. -/
  | dotted
  /-- The header of a table inside it leads through it. -/
  | implied
  deriving DecidableEq, Repr

/-- A TOML value. -/
inductive Value where
  | text (text : String)
  | integer (n : Int)
  | float (x : Float)
  | boolean (b : Bool)
  /-- A date, a time of day, or both, as it was written. -/
  | moment (text : String)
  | array (items : List Value)
  | table (origin : Origin) (entries : List (String × Value))
  /-- Tables that are collected under one header. -/
  | tables (elements : List (List (String × Value)))

/-- The entries of a table: keys and values in the order in which they were written. -/
abbrev Entries := List (String × Value)

namespace Value

/-- The entries of a table. -/
def entries? : Value → Option Entries
  | table _ entries => some entries
  | _ => none

/-- The items of an array. -/
def items? : Value → Option (List Value)
  | array items => some items
  | tables elements => some (elements.map (table .header))
  | _ => none

/-- The text of a value that is one. -/
def text? : Value → Option String
  | text s => some s
  | _ => none

/-- The integer of a value that is one. -/
def integer? : Value → Option Int
  | integer n => some n
  | _ => none

end Value

end Statbook.Toml
