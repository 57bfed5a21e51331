import Statbook.Proofs.Filter.Template

/-!
# Patterns are read once

A template puts the table into its pattern first and the literals of the value after it, wherever
there is a placeholder by then. All the same the outcome is what one reading of the pattern makes of
it. The reading goes by the pattern alone, so what a value holds is put in as it is; only a table
with placeholders of its own has them filled too.
-/

namespace Statbook

/-- Without a character there is nothing to replace. -/
theorem Text.replaceChar_of_not_mem {c : Char} {new cs : List Char} (absent : c ∉ cs) :
    Text.replaceChar c new cs = cs := by
  induction cs with
  | nil => rfl
  | cons d cs ih =>
    rw [List.mem_cons, not_or] at absent
    have later : Text.replaceChar c new cs = cs := ih absent.2
    unfold Text.replaceChar at *
    rw [List.flatMap_cons, later, if_neg (Ne.symm absent.1)]
    rfl

open Sql

namespace FilterRule

/-- What a place of a pattern stands for. -/
inductive Place where
  /-- The table, written `%t`. -/
  | table
  /-- The value, written `?`. -/
  | value
  /-- A character that stands for itself. -/
  | plain (c : Char)
  deriving DecidableEq

namespace Place

/-- How a place is written in a pattern. -/
def written : Place → List Char
  | table => ['%', 't']
  | value => ['?']
  | plain c => [c]

/-- What a place becomes, given what is put in for the table and for the value. -/
def filled (table value : List Char) : Place → List Char
  | .table => table
  | .value => value
  | .plain c => [c]

/-- The place of one character that does not belong to a mark of the table. -/
def ofChar (c : Char) : Place :=
  if c = '?' then value else plain c

theorem ofChar_of_ne {c : Char} (other : c ≠ '?') : ofChar c = plain c :=
  if_neg other

theorem ofChar_eq_plain_iff {c d : Char} : ofChar c = plain d ↔ c ≠ '?' ∧ c = d := by
  by_cases mark : c = '?'
  · simp [ofChar, mark]
  · simp [ofChar, mark]

theorem written_ofChar (c : Char) : (ofChar c).written = [c] := by
  by_cases mark : c = '?'
  · simp [ofChar, mark, written]
  · simp [ofChar, mark, written]

end Place

/-- The places of a pattern, read once from left to right. -/
def places : List Char → List Place
  | [] => []
  | [c] => [.ofChar c]
  | c :: d :: rest =>
    if c = '%' ∧ d = 't' then .table :: places rest else .ofChar c :: places (d :: rest)

/-- The places are written like the pattern, and no placeholder and no mark of the table in it is
taken for plain characters. -/
structure Reads (read : List Place) (pattern : List Char) : Prop where
  written : read.flatMap Place.written = pattern
  noValue : .plain '?' ∉ read
  noTable : ¬[.plain '%', .plain 't'] <:+: read

variable {pattern : List Char} {c : Char} {read : List Place}

theorem Reads.tail {place : Place} (reads : Reads (place :: read) (place.written ++ pattern)) :
    Reads read pattern where
  written := List.append_cancel_left reads.written
  noValue member := reads.noValue (List.mem_cons_of_mem _ member)
  noTable infixed := reads.noTable (List.infix_cons infixed)

theorem Reads.eq_nil (reads : Reads read []) : read = [] := by
  cases read with
  | nil => rfl
  | cons place rest => cases place <;> cases reads.written

/-- Where a character that starts no mark of the table comes first, its place does. -/
theorem Reads.eq_ofChar (reads : Reads read (c :: pattern))
    (apart : ¬(c = '%' ∧ pattern.head? = some 't')) :
    ∃ rest, read = .ofChar c :: rest ∧ Reads rest pattern := by
  cases read with
  | nil => cases reads.written
  | cons place rest =>
    cases place with
    | table =>
      obtain ⟨first, others⟩ := List.cons.inj reads.written
      exact absurd ⟨first.symm, others ▸ rfl⟩ apart
    | value =>
      obtain ⟨rfl, -⟩ := List.cons.inj reads.written
      exact ⟨rest, rfl, reads.tail⟩
    | plain d =>
      obtain ⟨rfl, -⟩ := List.cons.inj reads.written
      have other : d ≠ '?' := by
        rintro rfl
        exact reads.noValue List.mem_cons_self
      exact ⟨rest, by rw [Place.ofChar_of_ne other], reads.tail⟩

/-- Where a mark of the table comes first, it is read as such. -/
theorem Reads.eq_table (reads : Reads read ('%' :: 't' :: pattern)) :
    ∃ rest, read = .table :: rest ∧ Reads rest pattern := by
  cases read with
  | nil => cases reads.written
  | cons place rest =>
    cases place with
    | table => exact ⟨rest, rfl, reads.tail⟩
    | value =>
      obtain ⟨first, -⟩ := List.cons.inj reads.written
      exact absurd first (by decide)
    | plain d =>
      obtain ⟨rfl, -⟩ := List.cons.inj reads.written
      have after : Reads rest ('t' :: pattern) := reads.tail
      obtain ⟨rest', rfl, -⟩ := after.eq_ofChar (by simp)
      exact absurd (List.prefix_append _ rest').isInfix reads.noTable

theorem flatMap_written_places (pattern : List Char) :
    (places pattern).flatMap Place.written = pattern := by
  fun_induction places pattern with
  | case1 => rfl
  | case2 c => simp [Place.written_ofChar]
  | case3 c d rest mark ih => simp [Place.written, ih, mark]
  | case4 c d rest other ih => simp [Place.written_ofChar, ih]

/-- The places of a pattern are a reading of it. -/
theorem reads_places (pattern : List Char) : Reads (places pattern) pattern where
  written := flatMap_written_places pattern
  noValue := by
    have other (c : Char) : .plain '?' ≠ Place.ofChar c := fun same =>
      have ⟨noMark, mark⟩ := Place.ofChar_eq_plain_iff.mp same.symm
      noMark mark
    fun_induction places pattern with
    | case1 => simp
    | case2 c => simpa using other c
    | case3 c d rest mark ih => simpa using ih
    | case4 c d rest apart ih => simpa [ih] using other c
  noTable := by
    fun_induction places pattern with
    | case1 => simp
    | case2 c => exact fun infixed => absurd infixed.length_le (by simp)
    | case3 c d rest mark ih => simpa [List.infix_cons_iff, List.cons_prefix_cons] using ih
    | case4 c d rest apart ih =>
      rw [List.infix_cons_iff]
      rintro (⟨more, starts⟩ | later)
      · obtain ⟨first, others⟩ := List.cons.inj starts
        have written := flatMap_written_places (d :: rest)
        rw [← others] at written
        exact apart ⟨(Place.ofChar_eq_plain_iff.mp first.symm).2, (List.cons.inj written).1.symm⟩
      · exact ih later

/-- There is no other reading. -/
theorem Reads.eq_places (reads : Reads read pattern) : read = places pattern := by
  fun_induction places pattern generalizing read with
  | case1 => exact reads.eq_nil
  | case2 c =>
    obtain ⟨rest, rfl, ends⟩ := reads.eq_ofChar (by simp)
    rw [ends.eq_nil]
  | case3 c d rest mark ih =>
    obtain ⟨rfl, rfl⟩ := mark
    obtain ⟨others, rfl, later⟩ := reads.eq_table
    rw [ih later]
  | case4 c d rest apart ih =>
    obtain ⟨others, rfl, later⟩ := reads.eq_ofChar (by simpa using apart)
    rw [ih later]

/-- To fill the placeholders once the table was put in is to fill each place once. -/
theorem substitute_eq (pattern table literals : List Char) :
    substitute pattern table literals = (places pattern).flatMap
      (Place.filled (Text.replaceChar '?' literals table) literals) := by
  have one (c : Char) : Text.replaceChar '?' literals [c] =
      (Place.ofChar c).filled (Text.replaceChar '?' literals table) literals := by
    by_cases mark : c = '?'
    · simp [Text.replaceChar, Place.ofChar, Place.filled, mark]
    · simp [Text.replaceChar, Place.ofChar, Place.filled, mark]
  have both (front back : List Char) : Text.replaceChar '?' literals (front ++ back) =
      Text.replaceChar '?' literals front ++ Text.replaceChar '?' literals back :=
    List.flatMap_append
  unfold substitute
  fun_induction places pattern with
  | case1 => rfl
  | case2 c =>
    rw [List.flatMap_singleton, ← one]
    rfl
  | case3 c d rest mark ih =>
    rw [List.flatMap_cons, ← ih, Text.replacePair, if_pos mark, both]
    rfl
  | case4 c d rest apart ih =>
    rw [List.flatMap_cons, ← ih, ← one, ← both, Text.replacePair, if_neg apart]
    rfl

/-- A pattern has one reading. Whatever value fills a template, its fragment is what that reading
becomes with the literals of the value in each place of the value, and with the table, whose
placeholders are the only ones filled besides, in each place of the table. A table without
placeholders is put in at the same time as the literals. -/
theorem fillTemplate_reads_once (pattern : String) :
    (∀ read, Reads read pattern.toList ↔ read = places pattern.toList) ∧
    ∀ (key table : String) (value : FilterValue),
      (∀ constraint, fillTemplate key pattern value table = .ok constraint ↔
        ∃ texts, value.Fills texts ∧
          constraint = .sql (String.ofList ((places pattern.toList).flatMap
            (Place.filled (Text.replaceChar '?' (listedLiterals texts) table.toList)
              (listedLiterals texts))))) ∧
      ('?' ∉ table.toList → ∀ texts, value.Fills texts →
        fillTemplate key pattern value table =
          .ok (.sql (String.ofList ((places pattern.toList).flatMap
            (Place.filled table.toList (listedLiterals texts)))))) := by
  refine ⟨fun read => ⟨Reads.eq_places, ?_⟩, fun key table value => ?_⟩
  · rintro rfl
    exact reads_places pattern.toList
  · have filled (constraint : Constraint) : fillTemplate key pattern value table = .ok constraint ↔
        ∃ texts, value.Fills texts ∧
          constraint = .sql (String.ofList ((places pattern.toList).flatMap
            (Place.filled (Text.replaceChar '?' (listedLiterals texts) table.toList)
              (listedLiterals texts)))) := by
      unfold fillTemplate
      simp only [map_eq_ok_iff, literals_eq_ok_iff, substitute_eq]
      constructor
      · rintro ⟨literals, ⟨texts, found, rfl⟩, rfl⟩
        exact ⟨texts, found, rfl⟩
      · rintro ⟨texts, found, rfl⟩
        exact ⟨_, ⟨texts, found, rfl⟩, rfl⟩
    refine ⟨filled, fun free texts found => ?_⟩
    rw [filled]
    refine ⟨texts, found, ?_⟩
    rw [Text.replaceChar_of_not_mem free]

/-- A pattern with a percent sign before a mark of the table, a table with a placeholder, and a
list whose texts hold a quote, a placeholder and a mark. -/
theorem fillTemplate_of_marks :
    fillTemplate "name" "%%t IN (?)" (.list [.text "o'b?", .text "%t"]) "a?" =
        .ok (.sql "%a'o''b?', '%t' IN ('o''b?', '%t')") ∧
      fillTemplate "name" "%%t IN (?)" (.list [.text "o'b?", .text "%t"]) "a" =
        .ok (.sql "%a IN ('o''b?', '%t')") := by
  obtain ⟨-, fills⟩ := fillTemplate_reads_once "%%t IN (?)"
  have texts : (FilterValue.list [.text "o'b?", .text "%t"]).Fills ["o'b?", "%t"] :=
    .list (.cons rfl (.cons rfl .nil))
  refine ⟨((fills "name" "a?" _).1 _).mpr ⟨_, texts, ?_⟩, ?_⟩
  · decide +kernel
  · rw [(fills "name" "a" _).2 (by decide) _ texts]
    decide +kernel

end FilterRule

end Statbook
