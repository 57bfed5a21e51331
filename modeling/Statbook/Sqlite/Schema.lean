import Statbook.Sqlite.Database
import Statbook.Sqlite.Expression

/-!
# Declarations of tables

The statement that made a table says what its columns are. Of each column the name and the
declared type are read, and which one, if any, is another name for the number of the row.
-/

namespace Statbook.Sqlite

namespace Schema

/-- The words that end a declared type. -/
def constraintWords : List String :=
  ["constraint", "primary", "not", "null", "unique", "check", "default", "collate", "references",
    "generated", "as"]

/-- The words that start a constraint of the whole table. -/
def tableWords : List String :=
  ["constraint", "primary", "unique", "check", "foreign"]

/-- The text of a name, however it is quoted. -/
def nameOf? (t : Token) : Option String :=
  match t.lexeme with
  | .word text => some text
  | .name text _ => some text
  | .text text => some text
  | _ => none

/-- The tokens of each part between commas, up to the parenthesis that closes the list.
`depth` counts the parentheses that are open inside a part. -/
def parts : (depth : Nat) → List Token → List (List Token)
  | _, [] => [[]]
  | depth, t :: ts =>
    let add (parts : List (List Token)) : List (List Token) :=
      match parts with
      | [] => [[t]]
      | part :: others => (t :: part) :: others
    match t.lexeme, depth with
    | .mark .closing, 0 => [[]]
    | .mark .closing, depth + 1 => add (parts depth ts)
    | .mark .opening, _ => add (parts (depth + 1) ts)
    | .mark .comma, 0 => [] :: parts 0 ts
    | _, _ => add (parts depth ts)

/-- The declared type: the words before the first constraint. -/
def declaredType (ts : List Token) : String :=
  Text.joinWith " " ((ts.takeWhile fun t => !Reading.isWordOf constraintWords t).filterMap nameOf?)

/-- Whether the tokens hold some words one after another. -/
def holdWords (words : List String) : List Token → Bool
  | [] => words.isEmpty
  | t :: ts =>
    ((t :: ts).take words.length).map Reading.word? == words.map some || holdWords words ts

/-- A column that is declared, and whether it is another name for the number of the row. -/
def column? (ts : List Token) : Option (Column × Bool) :=
  match ts with
  | [] => none
  | t :: rest =>
    if Reading.isWordOf tableWords t then none
    else (nameOf? t).map fun name =>
      let type := declaredType rest
      (.declared name type, type.toUpper == "INTEGER" && holdWords ["primary", "key"] rest)

/-- The column that a constraint of the table makes its key on its own. -/
def keyColumn? (ts : List Token) : Option String :=
  if holdWords ["primary", "key"] (ts.take 2) then
    match ts.drop 2 with
    | [opening, name, closing] =>
      if opening.lexeme = .mark .opening ∧ closing.lexeme = .mark .closing then nameOf? name
      else none
    | _ => none
  else none

/-- The columns that a statement declares, each with whether it is another name for the number
of the row. -/
def columns (sql : String) : List (Column × Bool) :=
  let tokens := (Token.readAll sql.toList).dropWhile fun t => t.lexeme ≠ .mark .opening
  let parts := parts 0 (tokens.drop 1)
  let key? := parts.findSome? keyColumn?
  (parts.filterMap column?).map fun (column, isNumber) =>
    let isKey := key?.any (Text.sameIgnoringAsciiCase column.name)
    (column, isNumber || (isKey && column.affinity = .integer))

end Schema

end Statbook.Sqlite
