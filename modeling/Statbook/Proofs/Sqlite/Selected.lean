import Statbook.Proofs.Backend.Results
import Statbook.Sqlite.Selection

/-!
# The rows that are selected

The rows of a statement start with the rows of its table, and the columns of a table whose names
are told apart are found each in its own place.
-/

namespace Statbook.Sqlite

namespace Relation

variable {r : Relation} {label : String} {place : Place} {heading : Heading}

/-- A column of a table is found by its name and the name of the table. -/
theorem mem_placesOf (member : (heading, place) ∈ r.places) (isColumn : isColumnOf label heading) :
    place ∈ r.placesOf (some label) heading.column := by
  obtain ⟨notNumber, inTable⟩ : heading.isRowNumber = false ∧
      Text.sameIgnoringAsciiCase heading.table label := by simpa [isColumnOf] using isColumn
  have named : isNamedBy (some label) heading.column heading := by
    have same : Text.sameIgnoringAsciiCase heading.column heading.column := beq_self_eq_true _
    simp [isNamedBy, notNumber, inTable, same]
  have sought : (heading, place) ∈ r.places.filter fun found =>
      isNamedBy (some label) heading.column found.1 :=
    List.mem_filter.mpr ⟨member, named⟩
  unfold placesOf
  simp only [List.partition_eq_filter_filter]
  split
  · next none =>
    rw [List.isEmpty_iff, List.filter_eq_nil_iff] at none
    exact absurd (none (heading, place) sought) (by simp [notNumber])
  · exact List.mem_map.mpr ⟨_, List.mem_filter.mpr ⟨sought, by simp [notNumber]⟩, rfl⟩

/-- If the names of the columns of a table are told apart, each is found in its own place. -/
theorem placesOf_of_unrepeated (unrepeated : r.repeated? label = none)
    (member : (heading, place) ∈ r.places) (isColumn : isColumnOf label heading) :
    r.placesOf (some label) heading.column = [place] := by
  have found := mem_placesOf member isColumn
  have single : (r.placesOf (some label) heading.column).length ≤ 1 := by
    have isHeading : heading ∈ r.headings := by
      obtain ⟨index, bound, same⟩ := List.mem_mapIdx.mp member
      cases same
      exact List.getElem_mem bound
    have none := List.find?_eq_none.mp unrepeated heading
      (List.mem_filter.mpr ⟨isHeading, isColumn⟩)
    simpa using none
  obtain ⟨place', same⟩ := List.length_eq_one_iff.mp
    (Nat.le_antisymm single (List.length_pos_of_mem found))
  rw [same] at found ⊢
  rw [List.mem_singleton.mp found]

theorem mem_places {i : Nat} (listed : r.headings[i]? = some heading) :
    (heading, ⟨i, heading.affinity⟩) ∈ r.places := by
  obtain ⟨bound, isHeading⟩ := List.getElem?_eq_some_iff.mp listed
  exact List.mem_mapIdx.mpr ⟨i, bound, by rw [isHeading]⟩

theorem mem_columnsOf {name : String} : (name, place) ∈ r.columnsOf label ↔
    ∃ heading, (heading, place) ∈ r.places ∧ isColumnOf label heading ∧ heading.column = name := by
  simp [columnsOf, and_assoc]

end Relation

namespace Table

/-- A table as a database holds it: every row has a cell for each column, and no column has a NUL
in its name. -/
structure Sound (t : Table) : Prop where
  cells : ∀ row ∈ t.rows, row.length = t.columns.length
  names : ∀ column ∈ t.columns, nul ∉ column.name.toList

theorem length_storedRow (columns : List Column) (cells : List Cell) :
    (storedRow columns cells).length = columns.length := by
  induction columns generalizing cells with
  | nil => rfl
  | cons c columns ih => cases cells <;> simp [storedRow, ih]

/-- A table stays sound when rows are inserted. -/
theorem Sound.insert {t : Table} (sound : t.Sound) (rows : List (List Cell)) :
    (t.insert rows).Sound where
  cells := by
    intro row member
    obtain old | new := List.mem_append.mp member
    · exact sound.cells row old
    · obtain ⟨cells, _, rfl⟩ := List.mem_map.mp new
      exact length_storedRow t.columns cells
  names := sound.names

end Table

namespace Relation

variable {label : String} {t : Table} {i : Nat} {column : Column}

/-- The columns of a table come first, in their order. -/
theorem headings_ofTable (isColumn : t.columns[i]? = some column) (more : List Heading) :
    ((ofTable label t).headings ++ more)[i]? =
      some ⟨label, column.name, column.affinity, false⟩ := by
  have inside : i < t.columns.length := (List.getElem?_eq_some_iff.mp isColumn).1
  rw [ofTable, List.append_assoc, List.getElem?_append_left (by simpa using inside),
    List.getElem?_map, isColumn]
  rfl

/-- Every row with a number is one of the rows with a cell after it. -/
theorem mem_numberRows {number : Nat} {rows : List (List Cell)} {row : List Cell}
    (member : row ∈ numberRows number rows) : ∃ cells ∈ rows, ∃ cell, row = cells ++ [cell] := by
  induction rows generalizing number with
  | nil => cases member
  | cons cells rows ih =>
    obtain rfl | later := List.mem_cons.mp member
    · exact ⟨cells, List.mem_cons_self, _, rfl⟩
    · obtain ⟨cells', member', same⟩ := ih later
      exact ⟨cells', List.mem_cons_of_mem _ member', same⟩

/-- Rows that are joined start with the rows before. -/
theorem mem_join {kind : JoinKind} {r s : Relation} {condition : List Cell → Bool}
    {row : List Cell} (member : row ∈ (r.join kind s condition).rows) :
    ∃ cells ∈ r.rows, cells <+: row := by
  obtain ⟨cells, isRow, beside⟩ := List.mem_flatMap.mp member
  refine ⟨cells, isRow, ?_⟩
  dsimp only at beside
  split at beside
  · rw [List.mem_singleton.mp beside]
    exact List.prefix_append _ _
  · obtain ⟨other, _, rfl⟩ := List.mem_map.mp (List.mem_filter.mp beside).1
    exact List.prefix_append _ _

end Relation

namespace Database

variable {db : Database} {first joined : Relation} {joins : List (Join Place Cell)}
  {others : List Relation}

/-- The tables that are joined add their headings in order. -/
theorem headings_foldlM_addJoin
    (areOthers : joins.mapM (fun join => db.relationOf join.source) = .ok others)
    (isJoined : joins.foldlM db.addJoin first = .ok joined) :
    joined.headings = first.headings ++ others.flatMap Relation.headings := by
  have tables := mapM_eq_ok_iff.mp areOthers
  clear areOthers
  induction tables generalizing first with
  | nil =>
    cases isJoined
    simp
  | cons isOther _ ih =>
    rw [List.foldlM_cons] at isJoined
    obtain ⟨added, isAdded, isJoined⟩ := bind_eq_ok_iff.mp isJoined
    obtain ⟨other, isOther', rfl⟩ := map_eq_ok_iff.mp isAdded
    rw [isOther] at isOther'
    cases isOther'
    rw [ih isJoined, List.flatMap_cons, Relation.join, List.append_assoc]

theorem rows_foldlM_addJoin (isJoined : joins.foldlM db.addJoin first = .ok joined)
    {row : List Cell} (member : row ∈ joined.rows) : ∃ cells ∈ first.rows, cells <+: row := by
  induction joins generalizing first with
  | nil =>
    cases isJoined
    exact ⟨row, member, List.prefix_rfl⟩
  | cons join joins ih =>
    rw [List.foldlM_cons] at isJoined
    obtain ⟨added, isAdded, isJoined⟩ := bind_eq_ok_iff.mp isJoined
    obtain ⟨other, _, rfl⟩ := map_eq_ok_iff.mp isAdded
    obtain ⟨cells, isRow, starts⟩ := ih isJoined
    obtain ⟨cells', isRow', starts'⟩ := Relation.mem_join isRow
    exact ⟨cells', isRow', starts'.trans starts⟩

end Database

end Statbook.Sqlite
