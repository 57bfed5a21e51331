import Mathlib.Data.List.Induction
import Statbook.Proofs.Sqlite.Fetched
import Statbook.Proofs.Sqlite.Selected

/-!
# The rows shown are the rows counted

A query is asked for its rows, for their number, and for the number of them that have something in
a column. The three statements select the same rows, and a record has the cell of each column of
its table under the name of the column.
-/

namespace Statbook.Sqlite

namespace Connection

variable {c : Connection} {query : Query} {records : List Record}

/-- The number of rows of a query is that of the rows that are shown. -/
theorem count_of_fetch {c' : Connection} (shown : (fetch query c).1 = .ok records)
    (same : c'.database = c.database) :
    (backend.count query c').1 = .ok (Int64.ofNat records.length) := by
  obtain ⟨db, s, r, isDatabase, prepared, selected, rfl⟩ := fetch_eq_ok_iff.mp shown
  have text : (Operation.count.projection (Sql.qualifyColumn query.table wholeRowColumn)).toList =
      Operation.count.function.toList ++ ['(', '*', ')'] := by
    have star : Sql.qualifyColumn query.table wholeRowColumn = wholeRowColumn := if_pos (by decide)
    rw [star]
    decide
  have projects := Reading.projects_overRows .count
  rw [← text] at projects
  obtain ⟨u, first, others, p', resolves, -, ⟨place, rfl⟩, -, asked⟩ :=
    Database.prepare_other prepared (nul_notMem_rowProjection (nul_notMem_of_prepared prepared))
      (projects_rowProjection query) (by rw [text]; decide) projects fun told _ => .result 1 told
  have counted := asked (.overRows .count place) rfl fun _ _ other => nomatch other
  have answered : (run (query.writeAggregate .count wholeRowColumn) c').1 =
      .ok ⟨["COUNT"], [[.integer (Int64.ofNat r.rows.length)]]⟩ :=
    run_eq_ok_iff.mpr ⟨db, _, r, same ▸ isDatabase, counted, selected, rfl⟩
  have value : (aggregate query .count wholeRowColumn c').1 =
      .ok (.int (Int64.ofNat r.rows.length)) := by
    unfold aggregate
    rw [Fallible.bind_pure_apply, answered]
    rfl
  unfold Backend.count
  rw [Fallible.bind_pure_apply]
  show (aggregate query .count wholeRowColumn c').1.map _ = _
  rw [value, List.length_map]
  rfl

theorem lookup_entry (name other : String) (value : SqlValue) (record : Record) :
    List.lookup name ((other, value) :: record) =
      if name = other then some value else record.lookup name := by
  by_cases same : name = other
  · simp [same]
  · rw [List.lookup_cons, beq_false_of_ne same, if_neg same]

theorem lookup_insertColumn (column name : String) (value : SqlValue) (record : Record) :
    (insertColumn column value record).lookup name =
      if name = column then some value else record.lookup name := by
  induction record with
  | nil => exact lookup_entry name column value []
  | cons entry record ih =>
    obtain ⟨other, old⟩ := entry
    unfold insertColumn
    split
    · exact lookup_entry name column value _
    · split
      · rename_i replaced
        subst replaced
        rw [lookup_entry, lookup_entry]
        by_cases same : name = column <;> simp [same]
      · rename_i different
        rw [lookup_entry, lookup_entry, ih]
        by_cases found : name = other
        · have none : name ≠ column := fun same => different (same.symm.trans found)
          rw [if_pos found, if_neg none, if_pos found]
        · rw [if_neg found, if_neg found]

/-- If a row has one cell for a name, however often, that is what the record has for it. -/
theorem lookup_recordOf {name : String} {cell : Cell} {names : List String} {row : List Cell}
    (named : ∃ cell, (name, cell) ∈ names.zip row)
    (only : ∀ cell', (name, cell') ∈ names.zip row → cell' = cell) :
    (recordOf names row).lookup name = some cell.toSqlValue := by
  unfold recordOf
  generalize names.zip row = pairs at named only
  induction pairs using List.reverseRecOn with
  | nil => simp at named
  | append_singleton pairs pair ih =>
    obtain ⟨last, cell'⟩ := pair
    rw [List.foldl_append, List.foldl_cons, List.foldl_nil, lookup_insertColumn]
    split
    · rename_i same
      rw [only cell' (by simp [same])]
    · rename_i different
      refine ih ?_ fun cell'' member => only cell'' (List.mem_append_left _ member)
      obtain ⟨cell'', member⟩ := named
      have earlier : (name, cell'') ∈ pairs := by simpa [different] using member
      exact ⟨cell'', earlier⟩

/-- No join gives the table of a query another name. -/
def KeepsName (db : Database) (query : Query) : Prop :=
  ∀ s, rowStatement db query = .ok s → Text.sameIgnoringAsciiCase s.source.label query.table

/-- What is selected starts with the rows of the table. -/
theorem selected_starts {db : Database} {s : Statement Place Cell} {r : Relation} {t : Table}
    {u : UnresolvedStatement} {first : Relation} {others : List Relation}
    {reject : String → Nat → Fault} {values : List Cell}
    (resolves : Database.Resolves db reject values u s first others)
    (selected : db.selected s = .ok r) (isTable : db.table? s.source.table = some t) :
    r.headings = (Database.frame first others).headings ∧
      ∀ row ∈ r.rows, ∃ cells ∈ t.rows, cells <+: row := by
  obtain ⟨first', isFirst', rest⟩ := bind_eq_ok_iff.mp selected
  obtain ⟨joined, isJoined, rest⟩ := bind_eq_ok_iff.mp rest
  cases rest
  have isFirst := resolves.isFirst
  rw [← resolves.source] at isFirst
  obtain rfl : first' = first := Except.ok.inj (isFirst'.symm.trans isFirst)
  have headings := Database.headings_foldlM_addJoin resolves.joinedTables isJoined
  refine ⟨headings, fun row member => ?_⟩
  obtain ⟨cells, isRow, starts⟩ :=
    Database.rows_foldlM_addJoin isJoined (List.mem_filter.mp member).1
  rw [resolves.first_eq isTable] at isRow
  obtain ⟨cells', isRow', number, rfl⟩ := Relation.mem_numberRows isRow
  exact ⟨cells', isRow', (List.prefix_append _ _).trans starts⟩

/-- A column whose name is no expression is quoted under the table. -/
theorem projects_column {table column : String} (plain : Sql.isExpression column = false)
    (whole : '.' ∉ column.toList) (operation : Operation) :
    Reading.Projects (operation.projection (Sql.qualifyColumn table column)).toList
      (fun p => ∃ place, p = .aggregate operation (.column ⟨[table, column], none, place⟩)) := by
  have qualified : Sql.qualifyColumn table column =
      Sql.quoteIdent table ++ "." ++ Sql.quoteIdent column := by
    rw [Sql.qualifyColumn, if_neg (by simp [plain]), if_neg (by simpa using whole)]
  have marks : "(".toList = ['('] ∧ ".".toList = ['.'] ∧ ")".toList = [')'] := by decide
  have text : (operation.projection (Sql.qualifyColumn table column)).toList =
      operation.function.toList ++ ('(' :: ((Sql.quoteIdent table).toList ++
        '.' :: ((Sql.quoteIdent column).toList ++ [')']))) := by
    rw [qualified, Operation.projection]
    simp only [String.toList_append, marks, List.append_assoc, List.cons_append, List.nil_append]
  rw [text]
  exact Reading.projects_aggregate operation table column

theorem nul_notMem_column {table column : String} (plain : Sql.isExpression column = false)
    (whole : '.' ∉ column.toList) (noNul : nul ∉ table.toList) (noNul' : nul ∉ column.toList)
    (operation : Operation) :
    nul ∉ (operation.projection (Sql.qualifyColumn table column)).toList := by
  have function : nul ∉ operation.function.toList := by
    cases operation <;> decide
  have marks : nul ∉ "(".toList ∧ nul ∉ ".".toList ∧ nul ∉ ")".toList := by decide
  rw [Sql.qualifyColumn, if_neg (by simp [plain]), if_neg (by simpa using whole),
    Operation.projection]
  simp only [String.toList_append, List.mem_append, function, marks, nul_notMem_quoteIdent noNul,
    nul_notMem_quoteIdent noNul', or_self, not_false_eq_true]

/-- If the columns of the tables of a name are told apart, a record has the cell of each under its
name. -/
theorem lookup_recordIn {r : Relation} {table : String} {heading : Heading} {place : Place}
    (unrepeated : r.repeated? table = none) (member : (heading, place) ∈ r.places)
    (isColumn : Relation.isColumnOf table heading) (row : List Cell) :
    (recordIn r table row).lookup heading.column =
      some ((row[place.index]?).getD .null).toSqlValue := by
  have found := Relation.placesOf_of_unrepeated unrepeated member isColumn
  unfold recordIn
  refine lookup_recordOf ?_ fun cell shown => ?_
  · rw [List.zip_map']
    exact ⟨_, List.mem_map.mpr ⟨(heading.column, place),
      Relation.mem_columnsOf.mpr ⟨heading, member, isColumn, rfl⟩, rfl⟩⟩
  · rw [List.zip_map'] at shown
    obtain ⟨⟨name, place'⟩, listed, same⟩ := List.mem_map.mp shown
    obtain ⟨heading', member', isColumn', rfl⟩ := Relation.mem_columnsOf.mp listed
    obtain ⟨sameName, rfl⟩ := Prod.mk.inj same
    have placed := Relation.mem_placesOf member' isColumn'
    rw [show heading'.column = heading.column from sameName, found] at placed
    rw [List.mem_singleton.mp placed]

/-- A column of the table of a query is the place `i` of its rows, for its name as for records. -/
theorem prepare_column {db : Database} {s : Statement Place Cell} {t : Table} {i : Nat}
    {column : Column}
    (prepared : db.prepare (selectText query.rowProjection (onward query)) (cells query) = .ok s)
    (named : Text.sameIgnoringAsciiCase s.source.label query.table)
    (isTable : db.table? query.table = some t) (isColumn : t.columns[i]? = some column)
    (noNul : nul ∉ column.name.toList) (plain : Sql.isExpression column.name = false)
    (whole : '.' ∉ column.name.toList) (operation : Operation) :
    db.prepare (selectText (operation.projection (Sql.qualifyColumn query.table column.name))
        (onward query)) (cells query) =
      .ok { s with projection := .aggregate operation (.column ⟨i, column.affinity⟩) } ∧
    ∀ r, db.selected s = .ok r → (∀ row ∈ r.rows, ∃ cells ∈ t.rows, cells <+: row) ∧
      ∀ row, (recordIn r query.table row).lookup column.name =
        some ((row[i]?).getD .null).toSqlValue := by
  have noNul' := nul_notMem_of_prepared prepared
  obtain ⟨u, first, others, p, resolves, so, ⟨place, rfl⟩, read, asked⟩ :=
    Database.prepare_other prepared (nul_notMem_rowProjection noNul') (projects_rowProjection query)
      (nul_notMem_column plain whole noNul' noNul operation) (projects_column plain whole operation)
      fun told _ => .result 1 told
  have unrepeated := (unrepeated_of_resolves resolves so).2
  rw [onwardTokens_onward noNul'] at read
  have ofTable : s.source.table = query.table := resolves.source ▸ Reading.table_of_body read
  rw [← ofTable] at isTable
  let heading : Heading := ⟨s.source.label, column.name, column.affinity, false⟩
  have isColumn' : Relation.isColumnOf query.table heading := by
    simpa [Relation.isColumnOf, heading] using named
  have member : (heading, ⟨i, column.affinity⟩) ∈ (Database.frame first others).places := by
    refine @Relation.mem_places _ heading _ ?_
    rw [Database.frame, resolves.first_eq isTable]
    exact Relation.headings_ofTable isColumn _
  have found := Relation.placesOf_of_unrepeated unrepeated member isColumn'
  constructor
  · refine asked _ (map_eq_ok_iff.mpr ⟨_, Database.resolveIn_column found place, rfl⟩) ?_
    intro operation argument same
    cases same
    rfl
  · intro r selected
    obtain ⟨headings, starts⟩ := selected_starts resolves selected isTable
    have places : r.places = (Database.frame first others).places := by
      simp only [Relation.places, headings]
    have repeated : r.repeated? query.table = none := by
      simpa only [Relation.repeated?, Relation.placesOf, places, headings] using unrepeated
    exact ⟨starts, lookup_recordIn repeated (places ▸ member) isColumn'⟩

/-- The number of rows that have something in a place. -/
theorem aggregate_of_prepared {db : Database} {s : Statement Place Cell} {r : Relation}
    {column : String} {place : Place} (isDatabase : c.database = .ok db)
    (prepared : db.prepare (selectText
        (Operation.count.projection (Sql.qualifyColumn query.table column)) (onward query))
      (cells query) = .ok s)
    (selected : db.selected s = .ok r) (counts : s.projection = .aggregate .count (.column place)) :
    (aggregate query .count column c).1 = .ok (.int (Int64.ofNat
      (r.rows.countP fun row => !((row[place.index]?).getD .null).isNull))) := by
  have projected : Database.project s.projection r = .ok ⟨["COUNT"], [[.integer (Int64.ofNat
      ((r.rows.map fun row => (row[place.index]?).getD .null).filter
        fun cell => !cell.isNull).length)]]⟩ := by
    rw [counts]
    rfl
  have answered := run_eq_ok_iff.mpr ⟨db, s, r, isDatabase, prepared, selected, projected⟩
  unfold aggregate Query.writeAggregate
  rw [Fallible.bind_pure_apply, answered, ← List.countP_eq_length_filter, List.countP_map]
  rfl

/-- The number of rows of a query that have something in a column of its table is that of the rows
that are shown with something there. -/
theorem aggregate_of_fetch {c' : Connection} {db : Database} {t : Table} {i : Nat} {column : Column}
    (shown : (fetch query c).1 = .ok records) (isDatabase : c.database = .ok db)
    (isTable : db.table? query.table = some t) (sound : t.Sound) (keeps : KeepsName db query)
    (isColumn : t.columns[i]? = some column) (plain : Sql.isExpression column.name = false)
    (whole : '.' ∉ column.name.toList) (noBlob : ∀ row ∈ t.rows, ∀ bytes, row[i]? ≠ some (.blob bytes))
    (same : c'.database = c.database) :
    (aggregate query .count column.name c').1 = .ok (.int (Int64.ofNat
      (records.countP fun record => (record.lookup column.name).any (· ≠ .null)))) := by
  obtain ⟨db', s, r, isDatabase', prepared, selected, rfl⟩ := fetch_eq_ok_iff.mp shown
  obtain rfl : db' = db := Except.ok.inj (isDatabase'.symm.trans isDatabase)
  have named := keeps s ((rowStatement_eq db' query).trans prepared)
  have noNul := sound.names column (List.mem_of_getElem? isColumn)
  obtain ⟨counted, ofRow⟩ := prepare_column prepared named isTable isColumn noNul plain whole .count
  obtain ⟨starts, lookup⟩ := ofRow r selected
  have value := aggregate_of_prepared (c := c') (same ▸ isDatabase) counted selected rfl
  rw [value, List.countP_map]
  refine congrArg (fun n => Except.ok (StatValue.int (Int64.ofNat n)))
    (List.countP_congr fun row isRow => ?_)
  obtain ⟨cells, isCells, more, rfl⟩ := starts row isRow
  have inside : i < cells.length :=
    (sound.cells cells isCells).symm ▸ (List.getElem?_eq_some_iff.mp isColumn).1
  have noBlob := noBlob cells isCells
  simp only [Function.comp, lookup, List.getElem?_append_left inside]
  rw [List.getElem?_eq_getElem inside] at noBlob ⊢
  cases cell : cells[i] with
  | blob bytes => exact absurd (congrArg some cell) (noBlob bytes)
  | _ => simp [Cell.isNull, Cell.toSqlValue]

/-- The rows that are shown are the rows that are counted: with the same database a query has as many
rows as were fetched, and as many that have something in a column of its table as there are records
with something there. The column holds no blob, which is shown as nothing, its name is no
expression and has no dot, and no join gives the table another name. -/
theorem rows_shown_are_counted (query : Query) (c : Connection) (records : List Record)
    (shown : (backend.fetch query c).1 = .ok records) :
    (∀ c', c'.database = c.database →
      (backend.count query c').1 = .ok (Int64.ofNat records.length)) ∧
    ∀ db t (i : Nat) (column : Column), c.database = .ok db → db.table? query.table = some t → t.Sound →
      KeepsName db query → t.columns[i]? = some column →
      Sql.isExpression column.name = false → '.' ∉ column.name.toList →
      (∀ row ∈ t.rows, ∀ bytes, row[i]? ≠ some (.blob bytes)) →
      ∀ c', c'.database = c.database →
        (backend.aggregate query .count column.name c').1 = .ok (.int (Int64.ofNat
          (records.countP fun record => (record.lookup column.name).any (· ≠ .null)))) := by
  constructor
  · intro c' same
    exact count_of_fetch shown same
  · intro db t i column isDatabase isTable sound keeps isColumn plain whole noBlob c' same
    exact aggregate_of_fetch shown isDatabase isTable sound keeps isColumn plain whole noBlob same

/-- A table of items; one of them has no price. -/
def pricedItems (price : String) : Table :=
  (Table.empty "items" [.declared "id" "INTEGER", .declared price "INTEGER"]).insert
    [[.integer 1, .integer 5], [.integer 2, .null], [.integer 3, .integer 7]]

/-- A table of the tags that items have. -/
def itemTags : Table :=
  (Table.empty "tags" [.declared "item" "INTEGER", .declared "tag" "TEXT"]).insert
    [[.integer 1, .text "new"], [.integer 1, .text "red"], [.integer 2, .text "red"]]

/-- A connection to the items and their tags. -/
def shop (price : String) : Connection :=
  ofDatabase (.ok ⟨[pricedItems price, itemTags]⟩)

/-- The items with their tags. -/
def taggedItems : Query :=
  (Query.all "items").addJoins ["INNER JOIN tags ON tags.item = items.id"]

theorem sound_pricedItems (price : String) (noNul : nul ∉ price.toList) : (pricedItems price).Sound := by
  refine Table.Sound.insert ⟨by simp [Table.empty], ?_⟩ _
  intro column member
  have id : nul ∉ "id".toList := by decide
  simp only [Table.empty, List.mem_cons, List.not_mem_nil, or_false] at member
  obtain rfl | rfl := member
  · exact id
  · exact noNul

/-- An item with two tags is shown twice and counted twice. -/
theorem taggedItems_shown_are_counted :
    (∃ records, (backend.fetch taggedItems (shop "price")).1 = .ok records ∧ records.length = 3) ∧
      (backend.count taggedItems (shop "price")).1 = .ok 3 ∧
      (backend.aggregate taggedItems .count "price" (shop "price")).1 = .ok (.int 2) := by
  let first : Record := [("id", .integer 1), ("price", .integer 5)]
  have shown : (backend.fetch taggedItems (shop "price")).1 =
      .ok [first, first, [("id", .integer 2), ("price", .null)]] :=
    ok_of_toOption (by decide +kernel)
  have counted := rows_shown_are_counted taggedItems (shop "price") _ shown
  refine ⟨⟨_, shown, rfl⟩, counted.1 _ rfl, ?_⟩
  have keeps : KeepsName ⟨[pricedItems "price", itemTags]⟩ taggedItems := by
    have named : (rowStatement ⟨[pricedItems "price", itemTags]⟩ taggedItems).toOption.all
        (fun s => Text.sameIgnoringAsciiCase s.source.label "items") = true := by decide +kernel
    intro s prepared
    rw [prepared] at named
    exact named
  refine counted.2 _ (pricedItems "price") 1 (.declared "price" "INTEGER") rfl
    (List.find?_cons_of_pos (by decide)) (sound_pricedItems "price" (by decide)) keeps (by decide +kernel) (by decide) (by decide) ?_ _ rfl
  have cells : ∀ row ∈ (pricedItems "price").rows,
      row[1]? ∈ [some (.integer 5), some .null, some (.integer 7)] := by decide +kernel
  intro row member bytes same
  have cell := cells row member
  rw [same] at cell
  simp at cell

/-- The items under another name, which one of the tables that are joined has instead. -/
def renamedItems : Query :=
  (Query.all "items").addJoins ["AS i INNER JOIN tags AS items ON items.item = i.id"]

/-- A name with a blank in it is taken for an expression, and the columns of a table that a join
gives another name are not found; their rows are shown all the same. -/
theorem not_counted_of_spaced_or_renamed :
    (∃ records, (backend.fetch (Query.all "items") (shop "unit price")).1 = .ok records ∧
      records.countP (fun record => (record.lookup "unit price").any (· ≠ .null)) = 2 ∧
      (backend.aggregate (Query.all "items") .count "unit price" (shop "unit price")).1 ≠
        .ok (.int 2)) ∧
    ∃ records, (backend.fetch renamedItems (shop "price")).1 = .ok records ∧
      ∀ n, (backend.aggregate renamedItems .count "price" (shop "price")).1 ≠ .ok (.int n) := by
  constructor
  · have shown : (backend.fetch (Query.all "items") (shop "unit price")).1 =
        .ok [[("id", .integer 1), ("unit price", .integer 5)],
          [("id", .integer 2), ("unit price", .null)],
          [("id", .integer 3), ("unit price", .integer 7)]] :=
      ok_of_toOption (by decide +kernel)
    have rejected : (backend.aggregate (Query.all "items") .count "unit price"
        (shop "unit price")).1.toOption = none := by decide +kernel
    refine ⟨_, shown, by decide, fun counted => ?_⟩
    rw [counted] at rejected
    cases rejected
  · have shown : (backend.fetch renamedItems (shop "price")).1 =
        .ok [[("item", .integer 1), ("tag", .text "new")], [("item", .integer 1), ("tag", .text "red")],
          [("item", .integer 2), ("tag", .text "red")]] :=
      ok_of_toOption (by decide +kernel)
    have rejected : (backend.aggregate renamedItems .count "price" (shop "price")).1.toOption = none := by
      decide +kernel
    refine ⟨_, shown, fun n counted => ?_⟩
    rw [counted] at rejected
    cases rejected

end Connection

end Statbook.Sqlite
