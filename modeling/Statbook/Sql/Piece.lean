import Statbook.Sql.Value

/-!
# Statements in pieces

A statement is held with its values apart from its text. It is written in one of two ways:
inline, with every value as a literal, or bound, with numbered placeholders and the values
beside the text in the order of their numbers.
-/

namespace Statbook.Sql

/-- A part of a statement: text of its own, or the place of a value. -/
inductive Piece where
  | text (text : String)
  | value (value : SqlValue)
  deriving DecidableEq

/-- The characters of the pieces with every value as a literal. -/
def inlineChars : List Piece → List Char
  | [] => []
  | .text text :: pieces => text.toList ++ inlineChars pieces
  | .value value :: pieces => value.literal.toList ++ inlineChars pieces

/-- The placeholder with this number. -/
def placeholder (number : Nat) : List Char :=
  '?' :: Decimal.digits number

/-- The characters of the pieces with placeholders numbered from `next` on. -/
def boundChars : (next : Nat) → List Piece → List Char
  | _, [] => []
  | next, .text text :: pieces => text.toList ++ boundChars next pieces
  | next, .value _ :: pieces => placeholder next ++ boundChars (next + 1) pieces

/-- The values of the pieces in order. -/
def values : List Piece → List SqlValue
  | [] => []
  | .text _ :: pieces => values pieces
  | .value value :: pieces => value :: values pieces

/-- The statement with every value as a literal. -/
def inline (pieces : List Piece) : String :=
  String.ofList (inlineChars pieces)

/-- The statement with placeholders numbered from one on. -/
def bound (pieces : List Piece) : String :=
  String.ofList (boundChars 1 pieces)

/-- The pieces of several parts with `sep` between any two of them. -/
def joinPieces (sep : String) : List (List Piece) → List Piece
  | [] => []
  | [part] => part
  | part :: parts => part ++ .text sep :: joinPieces sep parts

end Statbook.Sql
