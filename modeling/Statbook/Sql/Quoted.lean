import Statbook.Text.Pieces

/-!
# Quoted texts in SQL

String literals stand between single quotes and identifiers between double quotes; the quote
itself is written twice inside.
-/

namespace Statbook.Sql

/-- `s` between two `quote`s, with each `quote` in it doubled. -/
def enclose (quote : Char) (s : List Char) : List Char :=
  quote :: (Text.replaceChar quote [quote, quote] s ++ [quote])

/-- What was enclosed in `quote`s, and the text after the closing one; read from after the
opening one. Two `quote`s stand for one, and the first that stands alone closes. -/
def readEnclosed? (quote : Char) : List Char → Option (List Char × List Char)
  | [] => none
  | [c] => if c = quote then some ([], []) else none
  | c :: d :: s =>
    if c ≠ quote then (readEnclosed? quote (d :: s)).map fun (t, rest) => (c :: t, rest)
    else if d = quote then (readEnclosed? quote s).map fun (t, rest) => (quote :: t, rest)
    else some ([], d :: s)

/-- A text as a string literal. -/
def quoteLiteral (text : String) : String :=
  String.ofList (enclose '\'' text.toList)

/-- A name as an identifier. -/
def quoteIdent (name : String) : String :=
  String.ofList (enclose '"' name.toList)

/-- Whether a column is an expression, which is left as it is: the star, and whatever holds a
parenthesis or a blank. -/
def isExpression (column : String) : Bool :=
  column == "*" || column.toList.contains '(' || column.toList.contains ' '

/-- A column as SQL refers to it: a name with dots is quoted part by part, and any other name
belongs to `table`. -/
def qualifyColumn (table column : String) : String :=
  if isExpression column then column
  else if column.toList.contains '.' then
    Text.joinWith "." ((Text.splitAt '.' column).map quoteIdent)
  else quoteIdent table ++ "." ++ quoteIdent column

end Statbook.Sql
