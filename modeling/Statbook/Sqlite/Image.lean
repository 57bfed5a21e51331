import Statbook.Sqlite.Fault
import Statbook.Sqlite.Schema

/-!
# Database files

A database file is a sequence of pages of one size. The rows of a table are the leaves of a
tree of pages, in the order of their numbers; a row that does not fit on its page goes on on
others. The first page is the root of the table that lists all tables.
-/

namespace Statbook.Sqlite

/-- The bytes of a database file, and the size of its pages. -/
structure Image where
  bytes : ByteArray
  pageSize : Nat
  /-- The number of bytes of a page that hold content. -/
  usable : Nat

namespace Image

/-- The text at the start of every database file. -/
def magic : List UInt8 :=
  "SQLite format 3\x00".toUTF8.toList

/-- The fault of a file that is no database. -/
def notDatabase : Fault :=
  .result 26 "file is not a database"

/-- The fault of a file whose content makes no sense. -/
def malformed : Fault :=
  .result 11 "database disk image is malformed"

/-- The byte at an offset. -/
def byte (image : Image) (offset : Nat) : Nat :=
  (image.bytes.data[offset]?.getD 0).toNat

/-- The number in so many bytes from an offset on, the highest byte first. -/
def number (image : Image) (offset : Nat) : (width : Nat) → Nat
  | 0 => 0
  | width + 1 => 256 * image.number offset width + image.byte (offset + width)

/-- A number of one to nine bytes, and the offset after it. Each byte but the ninth holds seven
bits and says whether another byte follows. -/
def flexible (image : Image) : (left acc offset : Nat) → Nat × Nat
  | 0, acc, offset => (256 * acc + image.byte offset, offset + 1)
  | left + 1, acc, offset =>
    let b := image.byte offset
    if b < 128 then (128 * acc + b, offset + 1)
    else image.flexible left (128 * acc + (b - 128)) (offset + 1)

/-- The number of variable length at an offset, and the offset after it. -/
def varint (image : Image) (offset : Nat) : Nat × Nat :=
  image.flexible 8 0 offset

/-- The integer with a sign that so many bytes hold. -/
def signed (width n : Nat) : Int :=
  if n < Nat.pow 2 (8 * width - 1) then n else (n : Int) - Nat.pow 2 (8 * width)

/-- The offset of a page; pages are counted from one on. -/
def pageStart (image : Image) (page : Nat) : Nat :=
  (page - 1) * image.pageSize

/-- The number of pages. -/
def pageCount (image : Image) : Nat :=
  (image.bytes.size + image.pageSize - 1) / image.pageSize

/-- Content that goes on from one page to the next. `fuel` bounds the number of pages. -/
def overflow (image : Image) : (fuel page size : Nat) → ByteArray
  | 0, _, _ => .empty
  | fuel + 1, page, size =>
    if page = 0 ∨ size = 0 then .empty
    else
      let start := image.pageStart page
      let here := min size (image.usable - 4)
      image.bytes.extract (start + 4) (start + 4 + here) ++
        image.overflow fuel (image.number start 4) (size - here)

/-- The content of a row of so many bytes, which starts at an offset. -/
def payload (image : Image) (offset size : Nat) : ByteArray :=
  let most := image.usable - 35
  if size ≤ most then image.bytes.extract offset (offset + size)
  else
    let least := (image.usable - 12) * 32 / 255 - 23
    let fitting := least + (size - least) % (image.usable - 4)
    let here := if fitting ≤ most then fitting else least
    image.bytes.extract offset (offset + here) ++
      image.overflow image.pageCount (image.number (offset + here) 4) (size - here)

/-- The numbers and contents of the rows below a page. `fuel` bounds the depth of the tree. -/
def rowsBelow (image : Image) : (fuel page : Nat) → Except Fault (List (Int × ByteArray))
  | 0, _ => .error malformed
  | fuel + 1, page => do
    let start := image.pageStart page
    let header := if page = 1 then start + 100 else start
    let cells := image.number (header + 3) 2
    let cellAt (first index : Nat) : Nat := start + image.number (first + 2 * index) 2
    match image.byte header with
    | 13 =>
      pure ((List.range cells).map fun index =>
        let (size, offset) := image.varint (cellAt (header + 8) index)
        let (number, offset) := image.varint offset
        (signed 8 number, image.payload offset size))
    | 5 =>
      let children := (List.range cells).map fun index =>
        image.number (cellAt (header + 12) index) 4
      let below ← (children ++ [image.number (header + 8) 4]).mapM (image.rowsBelow fuel)
      pure below.flatten
    | _ => .error malformed

/-- The kinds of the cells of a record: one number each, between two offsets. `fuel` bounds
how many there are. -/
def kinds (record : Image) : (fuel offset stop : Nat) → List Nat
  | 0, _, _ => []
  | fuel + 1, offset, stop =>
    if stop ≤ offset then []
    else
      let (kind, offset) := record.varint offset
      kind :: record.kinds fuel offset stop

/-- The number of bytes of a cell of a kind. -/
def sizeOfKind : Nat → Nat
  | 0 | 8 | 9 => 0
  | 5 => 6
  | 6 | 7 => 8
  | kind => if kind < 5 then kind else (kind - 12) / 2

/-- The cell of a kind at an offset. -/
def cellOfKind (record : Image) (offset : Nat) (kind : Nat) : Except Fault Cell :=
  let size := sizeOfKind kind
  let content := record.bytes.extract offset (offset + size)
  match kind with
  | 0 => .ok .null
  | 8 => .ok (.integer 0)
  | 9 => .ok (.integer 1)
  | 7 => .ok (.ofFloat (Float.ofBits (record.number offset 8).toUInt64))
  | _ =>
    if kind < 7 then .ok (.integer (Int64.ofInt (signed size (record.number offset size))))
    else if kind % 2 = 0 then .ok (.blob content.toList)
    else match String.fromUTF8? content with
      | some text => .ok (.text text)
      | none => .error malformed

/-- The cells of kinds one after another from an offset on. -/
def cellsFrom (record : Image) : (offset : Nat) → List Nat → Except Fault (List Cell)
  | _, [] => .ok []
  | offset, kind :: kinds => do
    let cell ← record.cellOfKind offset kind
    let cells ← record.cellsFrom (offset + sizeOfKind kind) kinds
    pure (cell :: cells)

/-- The cells of a record. -/
def recordCells (content : ByteArray) : Except Fault (List Cell) :=
  let record : Image := ⟨content, 1, 1⟩
  let (size, offset) := record.varint 0
  record.cellsFrom size (record.kinds content.size offset size)

/-- The numbers and cells of the rows of the table with a root. -/
def tableRows (image : Image) (root : Nat) : Except Fault (List (Int × List Cell)) := do
  (← image.rowsBelow (image.pageCount + 1) root).mapM fun (number, content) => do
    pure (number, ← recordCells content)

/-- A row of a table: a cell for each column, with the number of the row where a column is
another name for that. -/
def completeRow (columns : List (Column × Bool)) (number : Int) (cells : List Cell) :
    List Cell :=
  columns.mapIdx fun index (column, isNumber) =>
    if isNumber then .integer (Int64.ofInt number)
    else match cells[index]?, column.affinity with
      | some cell, .real => Affinity.toReal cell
      | some cell, _ => cell
      | none, _ => .null

/-- The table that a row of the list of tables stands for. -/
def table? (image : Image) : List Cell → Option (Except Fault Table)
  | [.text "table", .text name, _, .integer root, .text sql] => some do
    let columns := Schema.columns sql
    let rows ← image.tableRows root.toInt.toNat
    pure ⟨name, columns.map Prod.fst, rows.map fun (number, cells) =>
      completeRow columns number cells⟩
  | _ => none

/-- The database in the bytes of a file. A file without bytes is a database without tables. -/
def read (bytes : ByteArray) : Except Fault Database := do
  if bytes.isEmpty then pure .empty
  else if (bytes.extract 0 16).toList ≠ magic then .error notDatabase
  else
    let header : Image := ⟨bytes, 1, 1⟩
    let size := header.number 16 2
    let pageSize := if size = 1 then 65536 else size
    if pageSize < 512 then .error notDatabase
    else
      let image : Image := ⟨bytes, pageSize, pageSize - header.byte 20⟩
      let listed ← image.tableRows 1
      let tables ← (listed.filterMap fun (_, cells) => image.table? cells).mapM id
      pure ⟨tables⟩

end Image

end Statbook.Sqlite
