import Statbook.Text.Blank
import Statbook.Calendar.Layout
import Statbook.Sql.Value

/-!
# Filter values

The value that a caller gives for one filter key: nothing, a scalar, a range of time, or a
list. Scalars have a plain text and an SQL form; ranges and lists have neither.
-/

namespace Statbook

/-- The value of one filter key. -/
inductive FilterValue where
  /-- The key constrains nothing. -/
  | null
  | bool (value : Bool)
  | int (value : Int64)
  | float (value : Float)
  | text (value : String)
  | date (value : Date)
  | timestamp (value : Timestamp)
  /-- The moments from `first` to `last`, both included. -/
  | range (first last : Timestamp)
  | list (items : List FilterValue)

namespace FilterValue

instance : Inhabited FilterValue := ⟨null⟩

/-- Whether the value constrains nothing. -/
def isNull : FilterValue → Bool
  | null => true
  | _ => false

/-- The text of a textual value. -/
def text? : FilterValue → Option String
  | text value => some value
  | _ => none

/-- The integer of an integer, or of a text that writes one between blanks. -/
def int? : FilterValue → Option Int64
  | int value => some value
  | text value => Decimal.readInt64? (Text.trimChars value.toList)
  | _ => none

/-- The SQL form of a scalar. -/
def sqlValue? : FilterValue → Option SqlValue
  | null => some .null
  | bool value => some (.integer (if value then 1 else 0))
  | int value => some (.integer value)
  | float value => some (.real value)
  | text value => some (.text value)
  | date value => some (.text value.text)
  | timestamp value => some (.text value.sqlText)
  | range .. | list _ => none

/-- The plain text of a scalar. -/
def plainText? : FilterValue → Option String
  | null => some ""
  | bool value => some (if value then "true" else "false")
  | int value => some (Decimal.ofInt64 value)
  | float value => some (Decimal.plainFloat value)
  | text value => some value
  | date value => some value.text
  | timestamp value => some value.sqlText
  | range .. | list _ => none

/-- The name of a kind of value beside the value itself, as JSON has it. -/
def tagged (kind : String) (value : Json) : Json :=
  .object [("type", .text kind), ("value", value)]

mutual

/-- A filter value as JSON. -/
def toJson : FilterValue → Json
  | null => .object [("type", .text "null")]
  | bool value => tagged "bool" (.bool value)
  | int value => tagged "int" (.integer value.toInt)
  | float value => tagged "float" (.float value)
  | text value => tagged "text" (.text value)
  | date value => tagged "date" (.text value.text)
  | timestamp value => tagged "date_time" (.text value.jsonText)
  | range first last => tagged "range" (.array [.text first.jsonText, .text last.jsonText])
  | list items => tagged "list" (.array (itemsToJson items))

/-- Filter values as JSON, one by one. -/
def itemsToJson : List FilterValue → List Json
  | [] => []
  | item :: items => item.toJson :: itemsToJson items

end

end FilterValue

end Statbook
