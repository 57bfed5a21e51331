import Statbook.Sqlite.Token

/-!
# Expressions

Conditions on a row: comparisons of columns, literals and values that are bound, with signs if
need be, tests for null, and what `NOT`, `AND` and `OR` make of them. `IN` and `BETWEEN` are
read as the comparisons that they stand for.

Reading goes by the strength of the operators, from `OR` over `AND` and `NOT` to the tests of
equality and then of order; a list of tokens is taken apart from its front.
-/

namespace Statbook.Sqlite

/-- How two operands are compared. -/
inductive Comparison where
  | equal
  | unequal
  | less
  | atMost
  | greater
  | atLeast
  deriving DecidableEq, Repr

/-- Whether a comparison holds between operands in this order. -/
def Comparison.holds : Comparison → Ordering → Bool
  | equal, order => order = .eq
  | unequal, order => order ≠ .eq
  | less, order => order = .lt
  | atMost, order => order ≠ .gt
  | greater, order => order = .gt
  | atLeast, order => order ≠ .lt

/-- An expression over columns of the kind `κ` and bound values of the kind `π`. -/
inductive Expr (κ π : Type) where
  | literal (cell : Cell)
  /-- A number with a sign, and the number of bytes from there to the end of the statement. -/
  | number (negative : Bool) (literal : NumberLiteral) (bytesOnward : Nat)
  | parameter (value : π)
  | column (column : κ)
  /-- The value of an expression, without the affinity that it may have. -/
  | bare (e : Expr κ π)
  /-- Zero less an expression. -/
  | minus (e : Expr κ π)
  | compare (comparison : Comparison) (a b : Expr κ π)
  | isNull (e : Expr κ π)
  | not (e : Expr κ π)
  | and (a b : Expr κ π)
  | or (a b : Expr κ π)

/-- A column as a statement names it: the last part is its name, and the parts before it are
a table and a database. -/
structure ColumnName where
  parts : List String
  /-- What the name stands for if no column has it. -/
  otherwise : Option Cell
  /-- The number of bytes from the start of the name to the end of the statement. -/
  bytesOnward : Nat
  deriving DecidableEq

/-- An expression as it is read: columns by their names, bound values by their numbers. -/
abbrev Unresolved := Expr ColumnName Nat

namespace Expr

variable {κ π : Type}

/-- The expression equals one of several; with none it is false. -/
def isOneOf (e : Expr κ π) : List (Expr κ π) → Expr κ π
  | [] => literal (.integer 0)
  | item :: items => or (compare .equal e (bare item)) (isOneOf e items)

/-- The expression lies between two bounds. -/
def isBetween (e first last : Expr κ π) : Expr κ π :=
  and (compare .atLeast e first) (compare .atMost e last)

/-- The expression, or its opposite. -/
def negatedIf (negated : Bool) (e : Expr κ π) : Expr κ π :=
  if negated then not e else e

/-- The expression after a plus sign. -/
def positive : Expr κ π → Expr κ π
  | bare e => bare e
  | e => bare e

/-- The expression after a minus sign, which belongs to a number that follows it at once or
after plus signs. -/
def negated : Expr κ π → Expr κ π
  | number false n bytesOnward => number true n bytesOnward
  | bare (number false n bytesOnward) => number true n bytesOnward
  | e => minus e

/-- The numbers of an expression that are refused, as they are told about, each with the
number of bytes onward. -/
def refusedNumbers : Expr κ π → List (String × Nat)
  | literal _ => []
  | number negative n bytesOnward =>
    ((n.refused? negative).map fun told => (told, bytesOnward)).toList
  | parameter _ => []
  | column _ => []
  | bare e => e.refusedNumbers
  | minus e => e.refusedNumbers
  | compare _ a b => a.refusedNumbers ++ b.refusedNumbers
  | isNull e => e.refusedNumbers
  | not e => e.refusedNumbers
  | and a b => a.refusedNumbers ++ b.refusedNumbers
  | or a b => a.refusedNumbers ++ b.refusedNumbers

end Expr

/-- Takes something off the front of the tokens. It fails at a token, or at the end. -/
abbrev Reading (α : Type) := List Token → Except (Option Token) (α × List Token)

namespace Reading

/-- Fails at the first token. -/
def fail {α : Type} : Reading α := fun ts => .error ts.head?

/-- The words that are no names unless they are quoted. Other keywords are names wherever they
are no keywords. -/
def reservedWords : List String :=
  ["add", "all", "alter", "and", "as", "autoincrement", "between", "case", "check", "collate",
    "commit", "constraint", "create", "default", "deferrable", "delete", "distinct", "drop",
    "else", "escape", "except", "exists", "foreign", "from", "group", "having", "in", "index",
    "insert", "intersect", "into", "is", "isnull", "join", "limit", "not", "nothing", "notnull",
    "null", "on", "or", "order", "primary", "references", "returning", "select", "set", "table",
    "then", "to", "transaction", "union", "unique", "update", "using", "values", "when", "where"]

/-- The words that introduce a join; they are names, but not of tables. -/
def joinWords : List String :=
  ["cross", "full", "inner", "left", "natural", "outer", "right"]

/-- The words that start an operand of a kind that is not read here. -/
def operandWords : List String :=
  ["case", "cast", "exists", "raise"]

/-- The words that start a query after a parenthesis. Queries inside of statements are not
read. -/
def queryWords : List String :=
  ["select", "values", "with"]

/-- The word of a token in small letters. -/
def word? (t : Token) : Option String :=
  match t.lexeme with
  | .word text => some text.toLower
  | _ => none

/-- The tokens after a keyword, if that is first. -/
def afterWord? (keyword : String) : List Token → Option (List Token)
  | [] => none
  | t :: ts => if word? t = some keyword then some ts else none

/-- The tokens after a mark, if that is first. -/
def afterMark? (mark : Mark) : List Token → Option (List Token)
  | [] => none
  | t :: ts => if t.lexeme = .mark mark then some ts else none

/-- Takes a keyword. -/
def keyword (text : String) : Reading Unit := fun ts =>
  match afterWord? text ts with
  | some rest => .ok ((), rest)
  | none => fail ts

/-- Takes a mark. -/
def mark (m : Mark) : Reading Unit := fun ts =>
  match afterMark? m ts with
  | some rest => .ok ((), rest)
  | none => fail ts

/-- Whether a token is one of some words. -/
def isWordOf (words : List String) (t : Token) : Bool :=
  (word? t).any words.contains

/-- The name that a token is; a text between quotes is one, too. -/
def name? (t : Token) : Option String :=
  match t.lexeme with
  | .word text => if isWordOf reservedWords t then none else some text
  | .name text _ => some text
  | .text text => some text
  | _ => none

/-- Takes a name. -/
def name : Reading String
  | [] => fail []
  | t :: ts =>
    match name? t with
    | some text => .ok (text, ts)
    | none => fail (t :: ts)

/-- Takes the names that follow after dots; there are `most` at most. -/
def dottedNames : (most : Nat) → Reading (List String)
  | 0, ts => .ok ([], ts)
  | most + 1, ts =>
    match afterMark? .dot ts with
    | none => .ok ([], ts)
    | some rest => do
      let (part, rest) ← name rest
      let (parts, rest) ← dottedNames most rest
      pure (part :: parts, rest)

/-- What a name on its own stands for if no column has it: between double quotes a text, and
without quotes one of the words for the two truth values. -/
def cellOfName? (t : Token) : Option Cell :=
  match t.lexeme with
  | .name text true => some (.text text)
  | .word text =>
    if text.toLower = "true" then some (.integer 1)
    else if text.toLower = "false" then some (.integer 0)
    else none
  | _ => none

/-- Takes a column. -/
def columnName : Reading ColumnName
  | [] => fail []
  | t :: ts => do
    let (first, rest) ← name (t :: ts)
    let (others, rest) ← dottedNames 2 rest
    let otherwise := if others.isEmpty then cellOfName? t else none
    pure (⟨first :: others, otherwise, t.bytesOnward⟩, rest)

/-- Takes a literal, the place of a value, or a column. -/
def atom : Reading Unresolved
  | [] => fail []
  | t :: ts =>
    match t.lexeme with
    | .number n => .ok (.number false n t.bytesOnward, ts)
    | .blob bytes => .ok (.literal (.blob bytes), ts)
    | .parameter number => .ok (.parameter (number.getD 0), ts)
    | .text text =>
      if (afterMark? .dot ts).isNone then .ok (.literal (.text text), ts)
      else (columnName (t :: ts)).map fun (column, rest) => (.column column, rest)
    | _ =>
      if word? t = some "null" then .ok (.literal .null, ts)
      else if isWordOf operandWords t then fail ts
      else (columnName (t :: ts)).map fun (column, rest) => (.column column, rest)

/-- The comparison of order that a token stands for. -/
def orderTest? (t : Token) : Option Comparison :=
  match t.lexeme with
  | .mark .less => some .less
  | .mark .atMost => some .atMost
  | .mark .greater => some .greater
  | .mark .atLeast => some .atLeast
  | _ => none

/-- The comparison of equality that a token stands for. -/
def equalityTest? (t : Token) : Option Comparison :=
  match t.lexeme with
  | .mark .equal => some .equal
  | .mark .unequal => some .unequal
  | _ => none

mutual

/-- Takes an expression. `fuel` bounds the depth of the reading, here and below. -/
def disjunction : (fuel : Nat) → Reading Unresolved
  | 0, ts => fail ts
  | fuel + 1, ts => do
    let (a, ts) ← conjunction fuel ts
    moreDisjuncts fuel a ts

/-- Goes on after the operands of `OR` that were taken. -/
def moreDisjuncts : (fuel : Nat) → Unresolved → Reading Unresolved
  | 0, _, ts => fail ts
  | fuel + 1, a, ts =>
    match afterWord? "or" ts with
    | none => .ok (a, ts)
    | some ts => do
      let (b, ts) ← conjunction fuel ts
      moreDisjuncts fuel (.or a b) ts

/-- Takes operands of `AND`. -/
def conjunction : (fuel : Nat) → Reading Unresolved
  | 0, ts => fail ts
  | fuel + 1, ts => do
    let (a, ts) ← negation fuel ts
    moreConjuncts fuel a ts

/-- Goes on after the operands of `AND` that were taken. -/
def moreConjuncts : (fuel : Nat) → Unresolved → Reading Unresolved
  | 0, _, ts => fail ts
  | fuel + 1, a, ts =>
    match afterWord? "and" ts with
    | none => .ok (a, ts)
    | some ts => do
      let (b, ts) ← negation fuel ts
      moreConjuncts fuel (.and a b) ts

/-- Takes a test, or the opposite of one. -/
def negation : (fuel : Nat) → Reading Unresolved
  | 0, ts => fail ts
  | fuel + 1, ts =>
    match afterWord? "not" ts with
    | some ts => do
      let (e, ts) ← negation fuel ts
      pure (.not e, ts)
    | none => do
      let (a, ts) ← ordered fuel ts
      moreTests fuel a ts

/-- Goes on with tests of what was taken. -/
def moreTests : (fuel : Nat) → Unresolved → Reading Unresolved
  | 0, _, ts => fail ts
  | _ + 1, a, [] => .ok (a, [])
  | fuel + 1, a, t :: ts =>
    match equalityTest? t with
    | some comparison => do
      let (b, ts) ← ordered fuel ts
      moreTests fuel (.compare comparison a b) ts
    | none =>
      match word? t with
      | some "isnull" => moreTests fuel (.isNull a) ts
      | some "notnull" => moreTests fuel (.not (.isNull a)) ts
      | some "is" =>
        let (negated, ts) := match afterWord? "not" ts with
          | some ts => (true, ts)
          | none => (false, ts)
        do
          let (_, ts) ← keyword "null" ts
          moreTests fuel (.negatedIf negated (.isNull a)) ts
      | some "not" =>
        match afterWord? "null" ts with
        | some ts => moreTests fuel (.not (.isNull a)) ts
        | none => do
          let (e, ts) ← membership fuel a ts
          moreTests fuel (.not e) ts
      | some "in" | some "between" => do
        let (e, ts) ← membership fuel a (t :: ts)
        moreTests fuel e ts
      | _ => .ok (a, t :: ts)

/-- Takes what makes an operand of `IN` or `BETWEEN` a test. -/
def membership : (fuel : Nat) → Unresolved → Reading Unresolved
  | 0, _, ts => fail ts
  | fuel + 1, a, ts =>
    match afterWord? "between" ts with
    | some ts => do
      let (first, ts) ← ordered fuel ts
      let (_, ts) ← keyword "and" ts
      let (last, ts) ← ordered fuel ts
      pure (.isBetween a first last, ts)
    | none => do
      let (_, ts) ← keyword "in" ts
      let (_, ts) ← mark .opening ts
      match afterMark? .closing ts with
      | some ts => pure (.isOneOf a [], ts)
      | none =>
        if ts.head?.any (isWordOf queryWords) then fail (ts.drop 1)
        else
          let (items, ts) ← expressions fuel ts
          let (_, ts) ← mark .closing ts
          pure (.isOneOf a items, ts)

/-- Takes expressions with commas between them. -/
def expressions : (fuel : Nat) → Reading (List Unresolved)
  | 0, ts => fail ts
  | fuel + 1, ts => do
    let (e, ts) ← disjunction fuel ts
    match afterMark? .comma ts with
    | none => pure ([e], ts)
    | some ts =>
      let (es, ts) ← expressions fuel ts
      pure (e :: es, ts)

/-- Takes an operand of a test of equality. -/
def ordered : (fuel : Nat) → Reading Unresolved
  | 0, ts => fail ts
  | fuel + 1, ts => do
    let (a, ts) ← operand fuel ts
    moreOrdered fuel a ts

/-- Goes on with comparisons of order of what was taken. -/
def moreOrdered : (fuel : Nat) → Unresolved → Reading Unresolved
  | 0, _, ts => fail ts
  | _ + 1, a, [] => .ok (a, [])
  | fuel + 1, a, t :: ts =>
    match orderTest? t with
    | none => .ok (a, t :: ts)
    | some comparison => do
      let (b, ts) ← operand fuel ts
      moreOrdered fuel (.compare comparison a b) ts

/-- Takes an expression between parentheses, an atom, or what a sign or `NOT` makes of an
expression. Several expressions between parentheses are taken for the sake of the faults in
them; as a whole they are refused. -/
def operand : (fuel : Nat) → Reading Unresolved
  | 0, ts => fail ts
  | _ + 1, [] => fail []
  | fuel + 1, t :: ts =>
    match t.lexeme with
    | .mark .opening =>
      if ts.head?.any (isWordOf queryWords) then fail (ts.drop 1)
      else do
        let (e, ts) ← disjunction fuel ts
        match afterMark? .comma ts with
        | none =>
          let (_, ts) ← mark .closing ts
          pure (e, ts)
        | some others =>
          let (_, others) ← expressions fuel others
          let _ ← mark .closing others
          fail ts
    | .mark .plus => do
      let (e, ts) ← operand fuel ts
      pure (.positive e, ts)
    | .mark .minus => do
      let (e, ts) ← operand fuel ts
      pure (.negated e, ts)
    | _ =>
      if word? t = some "not" then do
        let (e, ts) ← negation fuel ts
        pure (.not e, ts)
      else atom (t :: ts)

end

/-- Fuel enough for an expression in a list of tokens. -/
def fuelFor (ts : List Token) : Nat :=
  8 * (ts.length + 1)

/-- Takes an expression. -/
def expression : Reading Unresolved := fun ts =>
  disjunction (fuelFor ts) ts

end Reading

end Statbook.Sqlite
