import Statbook.Decimal.Layout

/-!
# JSON values and their text

The compact text of a JSON value: no blanks, members in the order in which they are held, and
in strings no escapes but those that JSON asks for.
-/

namespace Statbook

open Decimal

/-- A JSON value. Integers and floats are set apart, since their texts are. -/
inductive Json where
  | null
  | bool (value : Bool)
  | integer (value : Int)
  | float (value : Float)
  | text (value : String)
  | array (items : List Json)
  | object (members : List (String × Json))

namespace Json

instance : Inhabited Json := ⟨null⟩

/-- A value that may be missing; then it is null. -/
def optional {α : Type} (toJson : α → Json) : Option α → Json
  | some value => toJson value
  | none => null

/-- An array of values. -/
def list {α : Type} (toJson : α → Json) (values : List α) : Json :=
  array (values.map toJson)

/-- The lower-case hexadecimal digit of a value below sixteen. -/
def hexDigit (n : Nat) : Char :=
  Nat.digitChar n

/-- A character inside a JSON string: quotes, backslashes and control characters are escaped. -/
def escapeChar (c : Char) : List Char :=
  if c = '"' then ['\\', '"']
  else if c = '\\' then ['\\', '\\']
  else if c = '\x08' then ['\\', 'b']
  else if c = '\x0c' then ['\\', 'f']
  else if c = '\n' then ['\\', 'n']
  else if c = '\r' then ['\\', 'r']
  else if c = '\t' then ['\\', 't']
  else if c.toNat < 0x20 then
    ['\\', 'u', '0', '0', hexDigit (c.toNat / 16), hexDigit (c.toNat % 16)]
  else [c]

/-- The JSON string of a text. -/
def quoted (s : String) : List Char :=
  '"' :: (s.toList.flatMap escapeChar ++ ['"'])

/-- The number of a float; what is no number is written `null`. -/
def floatChars (x : Float) : List Char :=
  (jsonFloat? x).getD "null".toList

mutual

/-- The text of a value. -/
def chars : Json → List Char
  | null => "null".toList
  | bool value => (if value then "true" else "false").toList
  | integer value => ofInt value
  | float value => floatChars value
  | text value => quoted value
  | array items => '[' :: (itemChars items ++ [']'])
  | object members => '{' :: (memberChars members ++ ['}'])

/-- The texts of items with commas between them. -/
def itemChars : List Json → List Char
  | [] => []
  | [item] => item.chars
  | item :: items => item.chars ++ ',' :: itemChars items

/-- The texts of members with commas between them. -/
def memberChars : List (String × Json) → List Char
  | [] => []
  | [(name, value)] => quoted name ++ ':' :: value.chars
  | (name, value) :: members => quoted name ++ ':' :: (value.chars ++ ',' :: memberChars members)

end

/-- The compact text of a value. -/
def render (value : Json) : String :=
  String.ofList value.chars

end Json

end Statbook
