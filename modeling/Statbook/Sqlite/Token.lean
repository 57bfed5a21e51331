import Statbook.Sql.Quoted
import Statbook.Sqlite.NumberLiteral

/-!
# Tokens of statements

A statement is read as a list of tokens. Each keeps how it was written and what the statement
is from there on, because a rejected statement is told about by the place where reading it
stopped. The tokens of the end of a statement do not depend on what stands in front of them.
Blanks and comments stand between tokens, and a NUL ends the statement.
-/

namespace Statbook.Sqlite

open Decimal

/-- A mark of punctuation or an operator. -/
inductive Mark where
  | equal
  | unequal
  | less
  | atMost
  | greater
  | atLeast
  | opening
  | closing
  | comma
  | dot
  | star
  | minus
  | plus
  | semicolon
  /-- An operator that has no place in the statements here. -/
  | foreign
  deriving DecidableEq, Repr

/-- What a token is. -/
inductive Lexeme where
  /-- A keyword or a name without quotes. -/
  | word (text : String)
  /-- A name between quotes; between double quotes it may also stand for a text. -/
  | name (text : String) (double : Bool)
  | text (value : String)
  | blob (bytes : List UInt8)
  | number (literal : NumberLiteral)
  /-- The place of a value; without a number of its own it takes the next one. -/
  | parameter (number : Option Nat)
  | mark (mark : Mark)
  /-- Characters that make no token. -/
  | unknown
  deriving DecidableEq

/-- A token, as it was written, and the text from its start to the end of the statement. -/
structure Token where
  lexeme : Lexeme
  written : List Char
  tail : List Char
  deriving DecidableEq

namespace Lexeme

/-- Whether a name without quotes can start with a character. -/
def startsName (c : Char) : Bool :=
  c.isAlpha || c = '_' || 0x80 ≤ c.toNat

/-- Whether a name without quotes can go on with a character. -/
def continuesName (c : Char) : Bool :=
  startsName c || isDigit c || c = '$'

/-- A number at the front of a text; a name must not follow at once. -/
def readNumber (cs : List Char) : Lexeme × List Char :=
  let (literal, rest) := NumberLiteral.read cs
  if rest.head?.any continuesName then (unknown, rest.dropWhile continuesName)
  else (number literal, rest)

/-- The bytes that pairs of hexadecimal digits write. -/
def bytesOf : List Char → List UInt8
  | high :: low :: ds => (Text.foldHex 0 [high, low]).toUInt8 :: bytesOf ds
  | _ => []

/-- A blob, after its mark and the quote: pairs of hexadecimal digits up to the next quote. -/
def readBlob (cs : List Char) : Lexeme × List Char :=
  let (ds, rest) := (cs.takeWhile Text.isHexDigit, cs.dropWhile Text.isHexDigit)
  match rest with
  | '\'' :: rest => (if ds.length % 2 = 0 then blob (bytesOf ds) else unknown, rest)
  | _ => (unknown, (rest.dropWhile (· ≠ '\'')).drop 1)

/-- A text between quotes; one that is not closed is no token. -/
def readQuoted (quote : Char) (make : String → Lexeme) (cs : List Char) : Lexeme × List Char :=
  match Sql.readEnclosed? quote cs with
  | some (content, rest) => (make (String.ofList content), rest)
  | none => (unknown, [])

/-- A name between brackets. -/
def readBracketed (cs : List Char) : Lexeme × List Char :=
  match Text.splitFirst ']' cs with
  | some (content, rest) => (name (String.ofList content) false, rest)
  | none => (unknown, [])

/-- The place of a value, after its question mark. -/
def readParameter (cs : List Char) : Lexeme × List Char :=
  let (ds, rest) := spanDigits cs
  let number := foldDigits 0 ds
  if ds.isEmpty then (parameter none, rest)
  else if number = 0 then (unknown, rest)
  else (parameter (some number), rest)

/-- A mark of one to three characters. -/
def readMark : List Char → Lexeme × List Char
  | '=' :: '=' :: cs => (mark .equal, cs)
  | '=' :: cs => (mark .equal, cs)
  | '!' :: '=' :: cs => (mark .unequal, cs)
  | '<' :: '>' :: cs => (mark .unequal, cs)
  | '<' :: '=' :: cs => (mark .atMost, cs)
  | '<' :: '<' :: cs => (mark .foreign, cs)
  | '<' :: cs => (mark .less, cs)
  | '>' :: '=' :: cs => (mark .atLeast, cs)
  | '>' :: '>' :: cs => (mark .foreign, cs)
  | '>' :: cs => (mark .greater, cs)
  | '(' :: cs => (mark .opening, cs)
  | ')' :: cs => (mark .closing, cs)
  | ',' :: cs => (mark .comma, cs)
  | '.' :: cs => (mark .dot, cs)
  | '*' :: cs => (mark .star, cs)
  | '-' :: '>' :: '>' :: cs => (mark .foreign, cs)
  | '-' :: '>' :: cs => (mark .foreign, cs)
  | '-' :: cs => (mark .minus, cs)
  | '+' :: cs => (mark .plus, cs)
  | ';' :: cs => (mark .semicolon, cs)
  | '|' :: '|' :: cs => (mark .foreign, cs)
  | '|' :: cs => (mark .foreign, cs)
  | '&' :: cs => (mark .foreign, cs)
  | '/' :: cs => (mark .foreign, cs)
  | '%' :: cs => (mark .foreign, cs)
  | '~' :: cs => (mark .foreign, cs)
  | cs => (unknown, cs.drop 1)

/-- A word at the front of a text. -/
def readWord (cs : List Char) : Lexeme × List Char :=
  (word (String.ofList (cs.takeWhile continuesName)), cs.dropWhile continuesName)

/-- The token that starts with `c`, which is no blank, and what follows it. -/
def read (c : Char) (cs : List Char) : Lexeme × List Char :=
  if c = 'x' ∨ c = 'X' then
    match cs with
    | '\'' :: rest => readBlob rest
    | _ => readWord (c :: cs)
  else if startsName c then readWord (c :: cs)
  else if isDigit c || (c = '.' && cs.head?.any isDigit) then readNumber (c :: cs)
  else if c = '\'' then readQuoted c text cs
  else if c = '"' then readQuoted c (name · true) cs
  else if c = '`' then readQuoted c (name · false) cs
  else if c = '[' then readBracketed cs
  else if c = '?' then readParameter cs
  else readMark (c :: cs)

end Lexeme

namespace Token

/-- The number of bytes of a text. -/
def byteLength : List Char → Nat
  | [] => 0
  | c :: cs => c.utf8Size + byteLength cs

/-- The number of bytes from the start of a token to the end of the statement. -/
def bytesOnward (t : Token) : Nat :=
  byteLength t.tail

/-- The text after the end of a comment of its own kind; one without an end takes all. -/
def afterCommentEnd : List Char → List Char
  | '*' :: '/' :: cs => cs
  | _ :: cs => afterCommentEnd cs
  | [] => []

/-- The mark of the order of bytes counts as a blank in front of a token. -/
def byteOrderMark : Char := '\uFEFF'

/-- The text after the blanks or the comment at its front, if there are any. A vertical tab is
no blank unless another blank stands before it. -/
def afterSpace? : List Char → Option (List Char)
  | '-' :: '-' :: cs => some (cs.dropWhile (· ≠ '\n'))
  | '/' :: '*' :: c :: cs => some (afterCommentEnd (c :: cs))
  | c :: cs =>
    if isSpace c && c ≠ '\x0B' then some (cs.dropWhile isSpace)
    else if c = byteOrderMark then some cs
    else none
  | [] => none

/-- The tokens of a text; `fuel` bounds its length. -/
def readFrom : (fuel : Nat) → List Char → List Token
  | 0, _ => []
  | _, [] => []
  | fuel + 1, c :: cs =>
    match afterSpace? (c :: cs) with
    | some rest => readFrom fuel rest
    | none =>
      let (lexeme, rest) := Lexeme.read c cs
      ⟨lexeme, (c :: cs).take (cs.length + 1 - rest.length), c :: cs⟩ :: readFrom fuel rest

/-- Gives every place of a value a number: its own, or the one after the largest so far. -/
def numberParameters : (largest : Nat) → List Token → List Token
  | _, [] => []
  | largest, t :: ts =>
    match t.lexeme with
    | .parameter (some number) => t :: numberParameters (max largest number) ts
    | .parameter none =>
      { t with lexeme := .parameter (some (largest + 1)) } :: numberParameters (largest + 1) ts
    | _ => t :: numberParameters largest ts

/-- The tokens of a statement. -/
def readAll (cs : List Char) : List Token :=
  numberParameters 0 (readFrom cs.length cs)

/-- The number of values that the tokens ask for. -/
def valueCount (ts : List Token) : Nat :=
  ts.foldl (fun largest t => match t.lexeme with
    | .parameter number => max largest (number.getD 0)
    | _ => largest) 0

/-- What is said of characters that make no token. -/
def unrecognized (written : List Char) : String :=
  "unrecognized token: \"" ++ String.ofList written ++ "\""

/-- What is said of a token where reading stopped. -/
def complaint (t : Token) : String :=
  if t.lexeme = .unknown then unrecognized t.written
  else "near \"" ++ String.ofList t.written ++ "\": syntax error"

/-- What is said of a number whose separators are misplaced. -/
def misgrouped? (t : Token) : Option String :=
  match t.lexeme with
  | .number literal => (literal.misgrouped? t.written).map unrecognized
  | _ => none

/-- What is said of the first number whose separators are misplaced, and the number of bytes
from the token after it to the end of the statement. -/
def firstMisgrouped? : List Token → Option (String × Nat)
  | [] => none
  | t :: ts =>
    match t.misgrouped? with
    | some told => some (told, (ts.head?.map bytesOnward).getD 0)
    | none => firstMisgrouped? ts

end Token

end Statbook.Sqlite
