import Statbook.Toml.Scalar
import Statbook.Toml.Table

/-!
# TOML documents

A document is a sequence of lines: headers, and pairs of a key and a value. Values may contain
others: arrays between brackets, and tables between braces, both with commas that may also
follow the last part, and with comments and ends of lines between the parts.
-/

namespace Statbook.Toml

/-- The text after a comment, from the end of its line on. -/
def afterComment? : List Char → Option (List Char)
  | [] => some []
  | c :: cs =>
    if (afterNewline? (c :: cs)).isSome then some (c :: cs)
    else if isControl c then none
    else afterComment? cs

/-- The text after blanks, comments and ends of lines. -/
def skipGaps : (fuel : Nat) → List Char → Option (List Char)
  | 0, cs => some cs
  | fuel + 1, cs =>
    match skipLines cs with
    | '#' :: cs => (afterComment? cs).bind (skipGaps fuel)
    | cs => some cs

/-- A key, the sign of equality, and the text before the value. -/
def Reader.keyAndSign : Reader (List String) := fun cs => do
  let (path, cs) ← keyPath (cs.length + 1) cs
  let (_, cs) ← char '=' cs
  pure (path, skipSpace cs)

mutual

/-- A value. `fuel` bounds the length of its text, here and below. -/
def Reader.value : (fuel : Nat) → Reader Value
  | 0, _ => none
  | fuel + 1, cs =>
    match cs with
    | '"' :: cs => (quoted '"' true cs).map fun (t, cs) => (.text t, cs)
    | '\'' :: cs => (quoted '\'' false cs).map fun (t, cs) => (.text t, cs)
    | '[' :: cs => (items fuel cs).map fun (vs, cs) => (.array vs, cs)
    | '{' :: cs => do
      let (pairs, cs) ← inlinePairs fuel cs
      let entries ← Entries.addPairs .inline pairs []
      pure (.table .inline entries, cs)
    | cs => scalar cs

/-- The items of an array up to its closing bracket. -/
def Reader.items : (fuel : Nat) → Reader (List Value)
  | 0, _ => none
  | fuel + 1, cs => do
    match ← skipGaps cs.length cs with
    | ']' :: cs => pure ([], cs)
    | cs =>
      let (v, cs) ← value fuel cs
      match ← skipGaps cs.length cs with
      | ']' :: cs => pure ([v], cs)
      | ',' :: cs =>
        let (vs, cs) ← items fuel cs
        pure (v :: vs, cs)
      | _ => none

/-- The pairs of a table up to its closing brace. -/
def Reader.inlinePairs : (fuel : Nat) → Reader (List Pair)
  | 0, _ => none
  | fuel + 1, cs => do
    match ← skipGaps cs.length cs with
    | '}' :: cs => pure ([], cs)
    | cs =>
      let (path, cs) ← keyAndSign cs
      let (v, cs) ← value fuel cs
      match ← skipGaps cs.length cs with
      | '}' :: cs => pure ([(path, v)], cs)
      | ',' :: cs =>
        let (pairs, cs) ← inlinePairs fuel cs
        pure ((path, v) :: pairs, cs)
      | _ => none

end

/-- What stands on a line, or starts on it. -/
inductive Line where
  | header (header : Header)
  | pair (pair : Pair)

/-- A path between brackets that were opened, up to as many closing ones. -/
def Reader.headerPath (closing : List Char) : Reader (List String) := fun cs => do
  let (path, cs) ← keyPath (cs.length + 1) (skipSpace cs)
  let cs ← Text.afterStart? closing cs
  pure (path, cs)

/-- A header or a pair. -/
def Reader.line : Reader Line
  | '[' :: '[' :: cs =>
    (headerPath "]]".toList cs).map fun (path, cs) => (.header (.element path), cs)
  | '[' :: cs => (headerPath "]".toList cs).map fun (path, cs) => (.header (.table path), cs)
  | cs => do
    let (path, cs) ← keyAndSign cs
    let (v, cs) ← value (cs.length + 1) cs
    pure (.pair (path, v), cs)

/-- The text after the rest of a line, on which only a comment may stand. -/
def afterLine? (cs : List Char) : Option (List Char) :=
  let ended : List Char → Option (List Char)
    | [] => some []
    | cs => afterNewline? cs
  match skipSpace cs with
  | '#' :: cs => (afterComment? cs).bind ended
  | cs => ended cs

/-- The lines of a document. -/
def Reader.lines : (fuel : Nat) → List Char → Option (List Line)
  | 0, _ => none
  | fuel + 1, cs => do
    match ← skipGaps cs.length cs with
    | [] => pure []
    | cs =>
      let (first, cs) ← line cs
      let others ← lines fuel (← afterLine? cs)
      pure (first :: others)

/-- The pairs before the first header, and the headers with the pairs below them. -/
def sections : List Line → List Pair × List (Header × List Pair)
  | [] => ([], [])
  | .pair pair :: rest =>
    let (pairs, others) := sections rest
    (pair :: pairs, others)
  | .header header :: rest =>
    let (pairs, others) := sections rest
    ([], (header, pairs) :: others)

/-- The entries that the lines define. -/
def entriesOf? (ls : List Line) : Option Entries := do
  let (pairs, others) := sections ls
  let entries ← Entries.addPairs .header pairs []
  others.foldlM (fun entries (header, pairs) => Entries.addSection header pairs entries) entries

/-- The mark that may stand before a document and says how it is encoded. -/
def byteOrderMark : Char := '\uFEFF'

/-- The entries of a document. -/
def readDocument? (text : String) : Option Entries :=
  let cs := match text.toList with
    | [] => []
    | c :: cs => if c = byteOrderMark then cs else c :: cs
  (Reader.lines (cs.length + 1) cs).bind entriesOf?

end Statbook.Toml
