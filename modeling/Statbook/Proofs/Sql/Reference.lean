import Statbook.Proofs.Sql.Quoted
import Statbook.Proofs.Sqlite.Spelled
import Statbook.Proofs.Text.Pieces

/-!
# References to columns are read back

A reference is one or more names between double quotes with single dots between them. Whatever the
names hold, a dot or a quote in them is told apart from one between them: a text is a reference to
some names only if it is these names quoted and joined. So a column is referred to by the parts that
were meant.
-/

namespace Statbook.Sql

open Sqlite.Token (columnChars)

variable {cs rest : List Char} {name : List Char} {names : List String}

/-- The name of the identifier at the front, and what follows the identifier. -/
def readIdent? : List Char → Option (List Char × List Char)
  | [] => none
  | c :: cs => if c = '"' then readEnclosed? c cs else none

theorem readIdent?_eq_some_iff : readIdent? cs = some (name, rest) ↔
    cs = enclose '"' name ++ rest ∧ rest.head? ≠ some '"' := by
  cases cs with
  | nil => simp [readIdent?, enclose]
  | cons c cs =>
    rw [readIdent?]
    by_cases quote : c = '"'
    · rw [if_pos quote, readEnclosed?_eq_some_iff, quote]
      simp [enclose]
    · simp [quote, enclose]

theorem length_lt_of_readIdent? (read : readIdent? cs = some (name, rest)) :
    rest.length < cs.length := by
  rw [(readIdent?_eq_some_iff.mp read).1, List.length_append, enclose, List.length_cons]
  omega

/-- The names of a reference. Nothing else may stand between them than a dot, and nothing behind
the last one. -/
def readReference? (cs : List Char) : Option (List String) :=
  match _read : readIdent? cs with
  | some (name, []) => some [String.ofList name]
  | some (name, c :: rest) =>
    if c = '.' then (readReference? rest).map (String.ofList name :: ·) else none
  | none => none
termination_by cs.length
decreasing_by
  have shorter := length_lt_of_readIdent? _read
  rw [List.length_cons] at shorter
  omega

theorem readReference?_eq (cs : List Char) : readReference? cs =
    match readIdent? cs with
    | some (name, []) => some [String.ofList name]
    | some (name, c :: rest) =>
      if c = '.' then (readReference? rest).map (String.ofList name :: ·) else none
    | none => none := by
  rw [readReference?]
  split <;> simp_all

theorem columnChars_cons (nonempty : names ≠ []) (name : String) :
    columnChars (name :: names) = (quoteIdent name).toList ++ '.' :: columnChars names := by
  rw [columnChars, List.map_cons, Text.joinChars_cons (by simpa using nonempty), List.append_assoc]
  rfl

theorem readIdent?_quoteIdent (alone : rest.head? ≠ some '"') (name : String) :
    readIdent? ((quoteIdent name).toList ++ rest) = some (name.toList, rest) :=
  readIdent?_eq_some_iff.mpr ⟨by rw [quoteIdent, String.toList_ofList], alone⟩

/-- Names that are quoted and joined are read back. -/
theorem readReference?_columnChars (nonempty : names ≠ []) :
    readReference? (columnChars names) = some names := by
  induction names with
  | nil => exact absurd rfl nonempty
  | cons name names ih =>
    cases names with
    | nil =>
      have read : readIdent? ((quoteIdent name).toList ++ []) = some (name.toList, []) :=
        readIdent?_quoteIdent (by simp) name
      rw [List.append_nil] at read
      rw [readReference?_eq, show columnChars [name] = (quoteIdent name).toList from rfl, read]
      simp
    | cons next names =>
      have onward := ih (List.cons_ne_nil _ _)
      rw [readReference?_eq, columnChars_cons (List.cons_ne_nil _ _),
        readIdent?_quoteIdent (by simp) name]
      simp [onward]

/-- What is read as a reference is its names quoted and joined, and nothing else. -/
theorem readReference?_eq_some_iff :
    readReference? cs = some names ↔ names ≠ [] ∧ cs = columnChars names := by
  constructor
  · intro read
    fun_induction readReference? cs generalizing names with
    | case1 cs name found =>
      obtain rfl := Option.some.inj read
      refine ⟨List.cons_ne_nil _ _, ?_⟩
      rw [(readIdent?_eq_some_iff.mp found).1, List.append_nil, columnChars, List.map_singleton,
        quoteIdent, String.toList_ofList, String.toList_ofList]
      rfl
    | case2 cs name rest found ih =>
      obtain ⟨others, onward, rfl⟩ := Option.map_eq_some_iff.mp read
      obtain ⟨nonempty, rfl⟩ := ih onward
      refine ⟨List.cons_ne_nil _ _, ?_⟩
      rw [(readIdent?_eq_some_iff.mp found).1, columnChars_cons nonempty, quoteIdent,
        String.toList_ofList, String.toList_ofList]
    | case3 cs name c rest found other => cases read
    | case4 cs found => cases read
  · rintro ⟨nonempty, rfl⟩
    exact readReference?_columnChars nonempty

/-- A column that is no expression is referred to by the parts that its dots separate, and one
without dots as part of the table. Whatever the table and the parts hold, these are the names that
are read from the reference up to its end. -/
theorem qualifyColumn_reads_back (table column : String) (noStar : column ≠ "*")
    (noSpace : ' ' ∉ column.toList) (noCall : '(' ∉ column.toList) :
    ∃ parts, readReference? (qualifyColumn table column).toList = some parts ∧
      ('.' ∈ column.toList →
        Text.joinWith "." parts = column ∧ ∀ part ∈ parts, '.' ∉ part.toList) ∧
      ('.' ∉ column.toList → parts = [table, column]) := by
  have plain : isExpression column = false := by
    simp [isExpression, noStar, noSpace, noCall]
  have nonempty : Sqlite.columnParts table column ≠ [] := List.length_pos_iff.mp
    (Nat.lt_of_lt_of_le Nat.two_pos (Sqlite.two_le_length_columnParts table column))
  refine ⟨Sqlite.columnParts table column, ?_, ?_, ?_⟩
  · rw [Sqlite.qualifyColumn_toList plain]
    exact readReference?_columnChars nonempty
  · intro dotted
    have parts : Text.splitAt '.' column = Sqlite.columnParts table column := by
      rw [Sqlite.columnParts, if_pos (by simpa using dotted)]
    exact (Text.splitAt_eq_iff.mp parts).2
  · intro undotted
    rw [Sqlite.columnParts, if_neg (by simpa using undotted)]

/-- A table with a dot and quotes in its name, a column with a quote, and one with an empty part. -/
theorem oddColumns_read_back :
    (∀ column ∈ ["a\"b..c", "pri\"ce"],
      column ≠ "*" ∧ ' ' ∉ column.toList ∧ '(' ∉ column.toList) ∧
    readReference? (qualifyColumn "my.\"items\"" "a\"b..c").toList = some ["a\"b", "", "c"] ∧
    readReference? (qualifyColumn "my.\"items\"" "pri\"ce").toList =
      some ["my.\"items\"", "pri\"ce"] := by
  obtain ⟨parts, read, dotted, -⟩ := qualifyColumn_reads_back "my.\"items\"" "a\"b..c" (by decide)
    (by decide) (by decide)
  obtain ⟨parts', read', -, undotted⟩ := qualifyColumn_reads_back "my.\"items\"" "pri\"ce"
    (by decide) (by decide) (by decide)
  obtain ⟨nonempty, -⟩ := readReference?_eq_some_iff.mp read
  have split : Text.splitAt '.' "a\"b..c" = parts :=
    Text.splitAt_eq_iff.mpr ⟨nonempty, dotted (by decide)⟩
  refine ⟨by decide, ?_, ?_⟩
  · rw [read, ← split]
    decide
  · rw [read', undotted (by decide)]

end Statbook.Sql
