import Statbook.Query.Basic

/-!
# The two renderings of a query

A statement that is written to a writer shows what its pieces show: its texts are the same for
every writer, and only what stands between them for a value differs. From there the statement of a
query is taken apart into texts and values, which both renderings share.
-/

namespace Statbook.Sql

variable {first second : List Piece} {writer : Writer}

namespace Writer

/-- What stands in the text for some pieces. -/
def shows : Writer → List Piece → List Char
  | inline, pieces => inlineChars pieces
  | bound values, pieces => boundChars (values.length + 1) pieces

/-- The writer once it has been given the values of some pieces. -/
def after : Writer → List Piece → Writer
  | inline, _ => inline
  | bound taken, pieces => bound (taken ++ Sql.values pieces)

end Writer

theorem values_append (first second : List Piece) :
    values (first ++ second) = values first ++ values second := by
  induction first with
  | nil => rfl
  | cons piece first ih => cases piece <;> simp [values, ih]

theorem inlineChars_append (first second : List Piece) :
    inlineChars (first ++ second) = inlineChars first ++ inlineChars second := by
  induction first with
  | nil => rfl
  | cons piece first ih => cases piece <;> simp [inlineChars, ih]

theorem boundChars_append (next : Nat) (first second : List Piece) :
    boundChars next (first ++ second) =
      boundChars next first ++ boundChars (next + (values first).length) second := by
  induction first generalizing next with
  | nil => rfl
  | cons piece first ih =>
    cases piece with
    | text text => simp [boundChars, values, ih]
    | value value =>
      simp only [List.cons_append, boundChars, values, ih, List.append_assoc, List.length_cons]
      rw [Nat.add_right_comm, Nat.add_assoc next]

namespace Writer

@[simp] theorem after_nil (writer : Writer) : writer.after [] = writer := by
  cases writer <;> simp [after, Sql.values]

theorem after_append (writer : Writer) (first second : List Piece) :
    writer.after (first ++ second) = (writer.after first).after second := by
  cases writer <;> simp [after, values_append]

theorem shows_append (writer : Writer) (first second : List Piece) :
    writer.shows (first ++ second) = writer.shows first ++ (writer.after first).shows second := by
  cases writer with
  | inline => exact inlineChars_append first second
  | bound taken =>
    simp only [shows, after, boundChars_append, List.length_append]
    rw [Nat.add_right_comm]

@[simp] theorem after_text (writer : Writer) (text : String) (pieces : List Piece) :
    writer.after (.text text :: pieces) = writer.after pieces := by
  cases writer <;> rfl

@[simp] theorem shows_nil (writer : Writer) : writer.shows [] = [] := by
  cases writer <;> rfl

@[simp] theorem shows_text (writer : Writer) (text : String) (pieces : List Piece) :
    writer.shows (.text text :: pieces) = text.toList ++ writer.shows pieces := by
  cases writer <;> rfl

end Writer

theorem joinPieces_cons_cons (sep : String) (part next : List Piece) (parts : List (List Piece)) :
    joinPieces sep (part :: next :: parts) =
      part ++ .text sep :: joinPieces sep (next :: parts) :=
  rfl

theorem values_joinPieces (sep : String) (parts : List (List Piece)) :
    values (joinPieces sep parts) = parts.flatMap values := by
  induction parts with
  | nil => rfl
  | cons part parts ih =>
    cases parts with
    | nil => simp [joinPieces]
    | cons next parts =>
      rw [joinPieces_cons_cons, values_append, List.flatMap_cons, ← ih]
      rfl

/-- What stands in the text for each of some parts, one part after another. -/
def Writer.texts : Writer → List (List Piece) → List String
  | _, [] => []
  | writer, part :: parts => String.ofList (writer.shows part) :: (writer.after part).texts parts

theorem Writer.after_joinPieces (writer : Writer) (sep : String) (parts : List (List Piece)) :
    writer.after (joinPieces sep parts) = writer.after parts.flatten := by
  induction parts generalizing writer with
  | nil => rfl
  | cons part parts ih =>
    cases parts with
    | nil => simp [joinPieces]
    | cons next parts =>
      rw [joinPieces_cons_cons, List.flatten_cons, after_append, after_text, ih, after_append]

theorem Writer.joinWith_texts (writer : Writer) (sep : String) (parts : List (List Piece)) :
    Text.joinWith sep (writer.texts parts) =
      String.ofList (writer.shows (joinPieces sep parts)) := by
  unfold Text.joinWith
  congr 1
  induction parts generalizing writer with
  | nil => cases writer <;> rfl
  | cons part parts ih =>
    cases parts with
    | nil => simp [texts, joinPieces, Text.joinChars]
    | cons next parts =>
      have rest := ih (writer.after part)
      rw [joinPieces_cons_cons, shows_append, shows_text, ← rest]
      simp [texts, Text.joinChars]

/-- The statement shows the pieces, to whichever writer it is written. -/
def Writes (statement : Writing String) (pieces : List Piece) : Prop :=
  ∀ writer, statement writer = (String.ofList (writer.shows pieces), writer.after pieces)

theorem writes_text (text : String) : Writes (pure text) [.text text] := by
  intro writer
  show (text, writer) = _
  simp

theorem writes_value (value : SqlValue) : Writes (Writer.value value) [.value value] := by
  intro writer
  cases writer <;> simp [Writer.value, Writer.shows, Writer.after, inlineChars, boundChars, values]

/-- Statements that are written one after another show their parts one after another. -/
theorem mapM_writes {α : Type} {write : α → Writing String} {pieces : α → List Piece}
    (each : ∀ x, Writes (write x) (pieces x)) (xs : List α) (writer : Writer) :
    xs.mapM write writer =
      (writer.texts (xs.map pieces), writer.after (xs.map pieces).flatten) := by
  induction xs generalizing writer with
  | nil => exact Prod.ext rfl (Writer.after_nil writer).symm
  | cons x xs ih =>
    rw [List.mapM_cons]
    show ((write x writer).1 :: (xs.mapM write (write x writer).2).1,
      (xs.mapM write (write x writer).2).2) = _
    rw [each x writer]
    simp only [ih, List.map_cons, List.flatten_cons, Writer.texts, Writer.after_append]

end Statbook.Sql

namespace Statbook

open Sql

namespace Constraint

/-- The values that a constraint compares with, in order. -/
def values : Constraint → List SqlValue
  | sql _ => []
  | equals _ .null => []
  | equals _ value => [value]
  | oneOf _ values => values
  | between _ first last => [.text first.sqlText, .text last.sqlText]

theorem writes (table : String) (constraint : Constraint) :
    Writes (constraint.write table) (constraint.pieces table) := by
  intro writer
  cases constraint with
  | sql fragment => exact writes_text _ writer
  | equals column value =>
    cases value with
    | null => exact writes_text _ writer
    | integer | real | text =>
      show (_ ++ (Writer.value _ writer).1, (Writer.value _ writer).2) = _
      rw [writes_value]
      simp only [pieces, Writer.shows_text, Writer.after_text, String.ofList_append,
        String.ofList_toList]
  | oneOf column values =>
    cases values with
    | nil => exact writes_text _ writer
    | cons value values =>
      have each := mapM_writes writes_value (value :: values) writer
      show (_ ++ Text.joinWith ", " ((value :: values).mapM Writer.value writer).1 ++ ")",
        ((value :: values).mapM Writer.value writer).2) = _
      rw [each]
      simp only [Writer.joinWith_texts, ← Writer.after_joinPieces _ ", "]
      simp only [pieces, valuePieces, Writer.shows_text, Writer.after_text, Writer.shows_append,
        Writer.after_append, Writer.shows_nil, Writer.after_nil, String.ofList_append,
        String.ofList_toList, String.append_assoc, List.append_nil]
  | between column first last =>
    show (_ ++ (Writer.value _ writer).1 ++ " AND " ++
      (Writer.value _ (Writer.value _ writer).2).1,
      (Writer.value _ (Writer.value _ writer).2).2) = _
    have split : (between column first last).pieces table =
        .text (qualifyColumn table column ++ " BETWEEN ") :: ([.value (.text first.sqlText)] ++
          .text " AND " :: [.value (.text last.sqlText)]) := rfl
    rw [writes_value, writes_value, split, Writer.shows_text, Writer.after_text,
      Writer.shows_append, Writer.after_append, Writer.shows_text, Writer.after_text]
    simp only [String.ofList_append, String.ofList_toList, String.append_assoc]

theorem values_pieces (table : String) (constraint : Constraint) :
    Sql.values (constraint.pieces table) = constraint.values := by
  have each (values : List SqlValue) : Sql.values (valuePieces values) = values := by
    rw [valuePieces, values_joinPieces, List.flatMap_map]
    exact List.flatMap_singleton' values
  cases constraint with
  | sql fragment => rfl
  | equals column value => cases value <;> rfl
  | oneOf column values =>
    cases values with
    | nil => rfl
    | cons value values =>
      show Sql.values (valuePieces (value :: values) ++ [.text ")"]) = value :: values
      rw [values_append, each]
      exact List.append_nil _
  | between column first last => rfl

end Constraint

namespace Query

variable (query : Query) (projection : String)

theorem writeConditions_apply (writer : Writer) :
    query.writeConditions writer =
      (if query.constraints.isEmpty then none
        else some (String.ofList (writer.shows query.conditionPieces)),
      writer.after query.conditionPieces) := by
  unfold writeConditions conditionPieces
  cases query.constraints with
  | nil => exact Prod.ext rfl (Writer.after_nil writer).symm
  | cons constraint constraints =>
    have each := mapM_writes (Constraint.writes query.table) (constraint :: constraints) writer
    show (some (Text.joinWith " AND "
        ((constraint :: constraints).mapM (Constraint.write query.table) writer).1),
      ((constraint :: constraints).mapM (Constraint.write query.table) writer).2) = _
    rw [each]
    simp only [Writer.joinWith_texts, Writer.after_joinPieces]
    rfl

/-- Clauses stand one after another, each after a blank. -/
theorem foldl_clauses (clauses : List String) (start : String) (writer : Writer)
    (pieces : List Piece) :
    String.ofList (writer.shows (.text start ::
        (clauses.map fun clause => .text (" " ++ clause)) ++ pieces)) =
      clauses.foldl (fun sql clause => sql ++ " " ++ clause) start ++
        String.ofList (writer.shows pieces) := by
  induction clauses generalizing start with
  | nil => simp [String.ofList_append]
  | cons clause clauses ih =>
    rw [List.foldl_cons, ← ih]
    simp [String.append_assoc]

theorem writes : Writes (query.write projection) (query.select projection) := by
  intro writer
  have joined (pieces : List Piece) := foldl_clauses query.joins
    ("SELECT " ++ projection ++ " FROM " ++ quoteIdent query.table) writer pieces
  have left (pieces : List Piece) : writer.after ((query.joins.map fun clause =>
      Piece.text (" " ++ clause)) ++ pieces) = writer.after pieces := by
    induction query.joins with
    | nil => rfl
    | cons clause clauses ih => simpa using ih
  unfold write select
  have bound (next : Option String → Writing String) : (query.writeConditions >>= next) writer =
      next (query.writeConditions writer).1 (query.writeConditions writer).2 := rfl
  rw [bound]
  rw [writeConditions_apply, joined, List.cons_append, Writer.after_text, left]
  unfold conditionPieces
  cases query.constraints with
  | nil =>
    show (_, writer.after []) = _
    simp
  | cons constraint constraints =>
    show (_ ++ " WHERE " ++ _, _) = _
    simp only [List.isEmpty_cons, Bool.false_eq_true, if_false, Writer.shows_text,
      Writer.after_text, String.ofList_append, String.ofList_toList, String.append_assoc]

theorem values_select :
    Sql.values (query.select projection) = query.constraints.flatMap Constraint.values := by
  have texts (clauses : List String) :
      Sql.values (clauses.map fun clause => .text (" " ++ clause)) = [] := by
    induction clauses with
    | nil => rfl
    | cons clause clauses ih => exact ih
  have conditions :
      Sql.values query.conditionPieces = query.constraints.flatMap Constraint.values := by
    rw [conditionPieces, values_joinPieces, List.flatMap_map]
    exact congrArg (query.constraints.flatMap ·) (funext (Constraint.values_pieces query.table))
  rw [select, values_append]
  show Sql.values (query.joins.map _) ++ _ = _
  rw [texts, List.nil_append, ← conditions]
  unfold conditionPieces
  cases query.constraints <;> rfl

end Query

end Statbook

namespace Statbook.Sql

/-- A text, and insertions that are followed by a text each. -/
def weave (first : String) : List (String × String) → String
  | [] => first
  | (inserted, next) :: rest => first ++ (inserted ++ weave next rest)

/-- The texts of some pieces and the values between them: the first text, and the values with the
text that follows each. -/
def texture : List Piece → String × List (SqlValue × String)
  | [] => ("", [])
  | .text text :: pieces => (text ++ (texture pieces).1, (texture pieces).2)
  | .value value :: pieces => ("", (value, (texture pieces).1) :: (texture pieces).2)

theorem values_texture (pieces : List Piece) : (texture pieces).2.map Prod.fst = values pieces := by
  induction pieces with
  | nil => rfl
  | cons piece pieces ih => cases piece <;> simp [texture, values, ih]

theorem weave_append (text first : String) (rest : List (String × String)) :
    weave (text ++ first) rest = text ++ weave first rest := by
  cases rest <;> simp [weave, String.append_assoc]

theorem inline_eq_weave (pieces : List Piece) :
    inline pieces = weave (texture pieces).1
      ((texture pieces).2.map fun part => (part.1.literal, part.2)) := by
  unfold inline
  induction pieces with
  | nil => rfl
  | cons piece pieces ih =>
    cases piece <;>
      simp [inlineChars, texture, weave, weave_append, String.ofList_append, ih]

/-- Placeholders are numbered in the order in which they stand. -/
theorem boundChars_eq_weave (next : Nat) (pieces : List Piece) :
    String.ofList (boundChars next pieces) = weave (texture pieces).1
      ((texture pieces).2.mapIdx fun i part =>
        (String.ofList (placeholder (next + i)), part.2)) := by
  induction pieces generalizing next with
  | nil => rfl
  | cons piece pieces ih =>
    cases piece with
    | text text => simp [boundChars, texture, weave_append, String.ofList_append, ih]
    | value value =>
      simp [boundChars, texture, weave, String.ofList_append, ih, List.mapIdx_cons, Nat.add_assoc,
        Nat.add_comm 1]

end Statbook.Sql

namespace Statbook.Query

open Sql

/-- Between texts that both renderings of a statement share, the bound one has placeholders that
are numbered from one on, and the values are collected in that order; the inline one has the
literals of these values. They are the values of the constraints, one constraint after another:
a comparison with null and one with no values have none. -/
theorem renderings_agree (query : Query) (projection : String) :
    ∃ (first : String) (rest : List (SqlValue × String)),
      rest.map Prod.fst = query.constraints.flatMap Constraint.values ∧
      query.write projection .fresh =
        (weave first (rest.mapIdx fun i part => (String.ofList (placeholder (i + 1)), part.2)),
          .bound (rest.map Prod.fst)) ∧
      query.write projection .inline =
        (weave first (rest.map fun part => (part.1.literal, part.2)), .inline) ∧
      ∀ (column : String) (writer : Writer),
        (Constraint.equals column .null).write query.table writer =
          (qualifyColumn query.table column ++ " IS NULL", writer) ∧
        (Constraint.oneOf column []).write query.table writer = ("1=0", writer) := by
  have values := values_texture (query.select projection)
  refine ⟨(texture (query.select projection)).1, (texture (query.select projection)).2,
    values.trans (query.values_select projection), ?_, ?_, fun column writer => ⟨rfl, rfl⟩⟩
  · rw [query.writes projection, values]
    have woven := boundChars_eq_weave 1 (query.select projection)
    simp only [Nat.add_comm 1] at woven
    exact Prod.ext woven rfl
  · rw [query.writes projection]
    exact Prod.ext (inline_eq_weave (query.select projection)) rfl

/-- A question mark of a fragment stays, and numbers count the values only. -/
example : (Query.mk "t" [] [] [.sql "a = '?'", .equals "b" .null, .equals "c" (.integer 7)]).write
    "*" .fresh =
      ("SELECT * FROM \"t\" WHERE (a = '?') AND \"t\".\"b\" IS NULL AND \"t\".\"c\" = ?1",
        .bound [.integer 7]) := by
  rfl

end Statbook.Query
