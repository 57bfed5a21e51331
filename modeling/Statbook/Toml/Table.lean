import Statbook.Toml.Value

/-!
# Putting tables together

A document defines its tables piece by piece: by headers, by dotted keys, and between braces.
No key may be set twice, and a table that was defined in one way is not added to in another.
-/

namespace Statbook.Toml

/-- A key in parts, and its value. -/
abbrev Pair := List String × Value

/-- The header over a part of a document. -/
inductive Header where
  /-- The pairs below make a table. -/
  | table (path : List String)
  /-- The pairs below make one more element of an array of tables. -/
  | element (path : List String)
  deriving DecidableEq, Repr

namespace Entries

/-- The entries with the value of a key replaced, or added at the end. -/
def set (key : String) (value : Value) : Entries → Entries
  | [] => [(key, value)]
  | (other, old) :: entries =>
    if other = key then (key, value) :: entries else (other, old) :: set key value entries

/-- Changes the entries of the table that a path leads to, given how that table came about.
What is missing on the way is made, and counts as `made`. Dotted keys do not lead through a
table with a header of its own, nothing leads into a table between braces, and of an array of
tables the last element counts. -/
def changeAt (made : Origin) (change : Origin → Entries → Option Entries) :
    (path : List String) → (here : Origin) → Entries → Option Entries
  | [], here, entries => change here entries
  | key :: path, _, entries =>
    match entries.lookup key with
    | none =>
      (changeAt made change path made []).map fun inner => set key (.table made inner) entries
    | some (.table origin inner) =>
      if origin = .inline ∨ (made = .dotted ∧ origin = .header) then none
      else
        (changeAt made change path origin inner).map fun inner =>
          set key (.table origin inner) entries
    | some (.tables elements) =>
      (changeAt made change path .header (elements.getLast?.getD [])).map fun last =>
        set key (.tables (elements.dropLast ++ [last])) entries
    | some _ => none

/-- Adds a pair to a table. A key in several parts ends in a table that dotted keys made. -/
def addPair (here : Origin) (pair : Pair) (entries : Entries) : Option Entries :=
  let path := pair.1.dropLast
  match pair.1.getLast? with
  | none => none
  | some key =>
    changeAt .dotted (fun origin inner =>
      if (path.isEmpty || origin = .dotted) && (inner.lookup key).isNone then
        some (set key pair.2 inner)
      else none) path here entries

/-- Adds pairs to a table. -/
def addPairs (here : Origin) (pairs : List Pair) (entries : Entries) : Option Entries :=
  pairs.foldlM (fun entries pair => addPair here pair entries) entries

/-- What a header puts under a key. A table that only led to others may get a header of its
own later. -/
def defineUnder (header : Header) (pairs : List Pair) (key : String) (entries : Entries) :
    Option Entries :=
  match header, entries.lookup key with
  | .table _, none =>
    (addPairs .header pairs []).map fun inner => set key (.table .header inner) entries
  | .table _, some (.table .implied inner) =>
    (addPairs .header pairs inner).map fun inner => set key (.table .header inner) entries
  | .element _, none =>
    (addPairs .header pairs []).map fun inner => set key (.tables [inner]) entries
  | .element _, some (.tables elements) =>
    (addPairs .header pairs []).map fun inner => set key (.tables (elements ++ [inner])) entries
  | _, _ => none

/-- Adds what stands below a header. -/
def addSection (header : Header) (pairs : List Pair) (entries : Entries) : Option Entries :=
  let path := match header with
    | .table path => path
    | .element path => path
  match path.getLast? with
  | none => none
  | some key =>
    changeAt .implied (fun _ inner => defineUnder header pairs key inner) path.dropLast .header
      entries

end Entries

end Statbook.Toml
