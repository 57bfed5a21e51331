import Statbook.Text.Hexadecimal

/-!
# Texts and keys in TOML

Texts stand between quotes: double ones, inside which a backslash escapes, or single ones,
inside which nothing does. Between three quotes a text may go over several lines. A key is a
word or a text on one line, and dots join keys to a path.
-/

namespace Statbook.Toml

/-- Takes something off the front of a text, which is returned without it. -/
abbrev Reader (α : Type) := List Char → Option (α × List Char)

/-- A character that texts and comments do not hold as it is. -/
def isControl (c : Char) : Bool :=
  (c.toNat < 0x20 && c ≠ '\t') || c.toNat = 0x7F

/-- The blanks within a line. -/
def isSpace (c : Char) : Bool :=
  c = ' ' || c = '\t'

/-- The text after blanks within a line. -/
def skipSpace (cs : List Char) : List Char :=
  cs.dropWhile isSpace

/-- The text after the end of a line, if that is first. -/
def afterNewline? : List Char → Option (List Char)
  | '\n' :: cs => some cs
  | '\r' :: '\n' :: cs => some cs
  | _ => none

/-- The text after blanks and ends of lines. -/
def skipLines : List Char → List Char
  | '\r' :: '\n' :: cs => skipLines cs
  | c :: cs => if isSpace c || c = '\n' then skipLines cs else c :: cs
  | [] => []

/-- The number that so many hexadecimal digits write, after what `acc` stands for. -/
def Reader.hexNumber : (width acc : Nat) → Reader Nat
  | 0, acc, cs => some (acc, cs)
  | _ + 1, _, [] => none
  | width + 1, acc, c :: cs => (Text.hexValue? c).bind fun d => hexNumber width (16 * acc + d) cs

/-- The character with a number, if there is one. -/
def charOf? (n : Nat) : Option Char :=
  if n.isValidChar then some (Char.ofNat n) else none

/-- The character that an escape of so many hexadecimal digits writes. -/
def Reader.escapedChar (width : Nat) : Reader Char := fun cs =>
  (hexNumber width 0 cs).bind fun (n, rest) => (charOf? n).map fun c => (c, rest)

/-- The character that is escaped by a backslash, which was taken. -/
def Reader.escape : Reader Char
  | 'b' :: cs => some ('\x08', cs)
  | 't' :: cs => some ('\t', cs)
  | 'n' :: cs => some ('\n', cs)
  | 'f' :: cs => some ('\x0c', cs)
  | 'r' :: cs => some ('\r', cs)
  | 'e' :: cs => some ('\x1b', cs)
  | '"' :: cs => some ('"', cs)
  | '\\' :: cs => some ('\\', cs)
  | 'x' :: cs => escapedChar 2 cs
  | 'u' :: cs => escapedChar 4 cs
  | 'U' :: cs => escapedChar 8 cs
  | _ => none

/-- A text on one line, up to its closing quote. `fuel` bounds its length, here and below. -/
def Reader.oneLine (quote : Char) (escapes : Bool) : (fuel : Nat) → Reader (List Char)
  | 0, _ => none
  | _, [] => none
  | fuel + 1, c :: cs =>
    if c = quote then some ([], cs)
    else if c = '\\' ∧ escapes then do
      let (e, cs) ← escape cs
      let (t, cs) ← oneLine quote escapes fuel cs
      pure (e :: t, cs)
    else if isControl c then none
    else (oneLine quote escapes fuel cs).map fun (t, cs) => (c :: t, cs)

/-- A text on several lines, up to its three closing quotes; two more may stand before them.
A backslash at the end of a line joins what follows after blanks and empty lines. -/
def Reader.manyLines (quote : Char) (escapes : Bool) : (fuel : Nat) → Reader (List Char)
  | 0, _ => none
  | _, [] => none
  | fuel + 1, c :: cs =>
    if c = quote then
      let quotes := (c :: cs).takeWhile (· = quote)
      let rest := (c :: cs).dropWhile (· = quote)
      if quotes.length < 3 then
        (manyLines quote escapes fuel rest).map fun (t, cs) => (quotes ++ t, cs)
      else if quotes.length ≤ 5 then some (quotes.drop 3, rest)
      else none
    else if c = '\\' ∧ escapes then
      match afterNewline? (skipSpace cs) with
      | some cs => manyLines quote escapes fuel (skipLines cs)
      | none => do
        let (e, cs) ← escape cs
        let (t, cs) ← manyLines quote escapes fuel cs
        pure (e :: t, cs)
    else
      match afterNewline? (c :: cs) with
      | some rest =>
        (manyLines quote escapes fuel rest).map fun (t, cs) =>
          (if c = '\r' then '\r' :: '\n' :: t else '\n' :: t, cs)
      | none =>
        if isControl c then none
        else (manyLines quote escapes fuel cs).map fun (t, cs) => (c :: t, cs)

/-- A text, after its opening quote. An end of line directly after three quotes is dropped. -/
def Reader.quoted (quote : Char) (escapes : Bool) : Reader String := fun cs =>
  let read := match cs with
    | c :: d :: rest =>
      if c = quote ∧ d = quote then
        manyLines quote escapes (cs.length + 1) ((afterNewline? rest).getD rest)
      else oneLine quote escapes (cs.length + 1) cs
    | _ => oneLine quote escapes (cs.length + 1) cs
  read.map fun (t, rest) => (String.ofList t, rest)

/-- A character of a key without quotes. -/
def isKeyChar (c : Char) : Bool :=
  c.isAlphanum || c = '_' || c = '-'

/-- One part of a key. -/
def Reader.keyPart : Reader String
  | [] => none
  | c :: cs =>
    if c = '"' then (oneLine c true (cs.length + 1) cs).map fun (t, rest) => (String.ofList t, rest)
    else if c = '\'' then
      (oneLine c false (cs.length + 1) cs).map fun (t, rest) => (String.ofList t, rest)
    else if isKeyChar c then
      some (String.ofList ((c :: cs).takeWhile isKeyChar), (c :: cs).dropWhile isKeyChar)
    else none

/-- A key in its parts, and the text after the blanks behind it. -/
def Reader.keyPath : (fuel : Nat) → Reader (List String)
  | 0, _ => none
  | fuel + 1, cs => do
    let (part, cs) ← keyPart cs
    match skipSpace cs with
    | '.' :: cs =>
      let (parts, cs) ← keyPath fuel (skipSpace cs)
      pure (part :: parts, cs)
    | cs => pure ([part], cs)

end Statbook.Toml
