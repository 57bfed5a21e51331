import Statbook.Error
import Statbook.Calendar.Window
import Statbook.Filter.Infer
import Statbook.Query.Constraint

/-!
# Filter rules

A rule says what a filter key means: it turns the value of the key into a constraint. A key
without a rule is refused, unless it stands for a window of time; a null value constrains
nothing under any rule.
-/

namespace Statbook

/-- What a filter key means. -/
inductive FilterRule where
  /-- SQL with `?` for the quoted value and `%t` for the table. -/
  | template (pattern : String)
  /-- The column equals the value. -/
  | equality
  /-- The column lies on the day of the value. -/
  | day
  /-- The field lies in a window around the present, which the key or the value names. -/
  | window (field : String)
  /-- The rule, on another column than that of the key's name. -/
  | onColumn (column : String) (rule : FilterRule)
  deriving DecidableEq

/-- Rules by filter key, one for each key. -/
abbrev FilterRules := List (String × FilterRule)

/-- The rules with the rule of `key` set; a key keeps its place. -/
def FilterRules.set (rules : FilterRules) (key : String) (rule : FilterRule) : FilterRules :=
  match rules with
  | [] => [(key, rule)]
  | pair :: rules =>
    if pair.1 = key then (key, rule) :: rules else pair :: FilterRules.set rules key rule

namespace FilterRule

/-- The texts of all items, unless one has none. -/
def plainTexts? (items : List FilterValue) : Option (List String) :=
  items.mapM FilterValue.plainText?

/-- The literals that stand for a value in a template: that of its plain text, or those of
its items with commas between them. -/
def literals (key : String) : FilterValue → Except StatError (List Char)
  | .list items =>
    match plainTexts? items with
    | some texts =>
      .ok (Text.joinChars ", ".toList (texts.map fun text => (Sql.quoteLiteral text).toList))
    | none => .error (.invalidFilterValue key "nested lists cannot fill a template")
  | value =>
    match value.plainText? with
    | some text => .ok (Sql.quoteLiteral text).toList
    | none => .error (.invalidFilterValue key "ranges cannot fill a template")

/-- A pattern with the table put in, and then the literals. -/
def substitute (pattern table literals : List Char) : List Char :=
  Text.replaceChar '?' literals (Text.replacePair '%' 't' table pattern)

/-- The constraint of a template. -/
def fillTemplate (key pattern : String) (value : FilterValue) (table : String) :
    Except StatError Constraint :=
  (literals key value).map fun literals =>
    .sql (String.ofList (substitute pattern.toList table.toList literals))

/-- The constraint that a column equals a value, is one of the items of a list, or lies in a
range. -/
def equate (key column : String) : FilterValue → Except StatError Constraint
  | .range first last => .ok (.between column first last)
  | .list items =>
    match items.mapM FilterValue.sqlValue? with
    | some values => .ok (.oneOf column values)
    | none => .error (.invalidFilterValue key "lists must contain scalar values")
  | value =>
    match value.sqlValue? with
    | some value => .ok (.equals column value)
    | none => .error (.invalidFilterValue key "unsupported equality value")

/-- The day that a value names. -/
def dayOf (key : String) : FilterValue → Except StatError Date
  | .date date => .ok date
  | .timestamp timestamp => .ok timestamp.date
  | .text text =>
    match FilterValue.infer text with
    | .date date => .ok date
    | .timestamp timestamp => .ok timestamp.date
    | _ => .error (.invalidFilterValue key ("expected a %Y-%m-%d date, got `" ++ text ++ "`"))
  | _ => .error (.invalidFilterValue key "expected a date")

/-- The constraint that a column lies on a day. -/
def onDay (column : String) (day : Date) : Constraint :=
  .between column (.startOf day) (.endOf day)

/-- The window that a filter asks for: that of the key, or else that of the value's text. -/
def windowOf? (key : String) (value : FilterValue) : Option Window :=
  (Window.ofKey? key).or (value.text?.bind Window.ofKey?)

/-- The constraint that a field lies in the window that a filter asks for. -/
def inWindow (key field : String) (value : FilterValue) (now : Timestamp) :
    Except StatError Constraint :=
  match windowOf? key value with
  | none => .error (.invalidFilterValue key "expected one of today, week, month, year")
  | some found =>
    match found.bounds? now with
    | none =>
      .error (.invalidFilterValue key "current time is outside the supported calendar")
    | some (first, last) => .ok (.between field first last)

/-- The constraint of a value under a rule, on `column` if the rule names no other. -/
def apply (key : String) (value : FilterValue) (table : String) (now : Timestamp) :
    (column : String) → FilterRule → Except StatError Constraint
  | _, template pattern => fillTemplate key pattern value table
  | column, equality => equate key column value
  | column, day => (dayOf key value).map (onDay column)
  | _, window field => inWindow key field value now
  | _, onColumn column rule => apply key value table now column rule

/-- The constraint of a filter key without a rule: a key that stands for a window takes the
name of the field as its value. -/
def applyDefault (key : String) (value : FilterValue) (now : Timestamp) :
    Except StatError Constraint :=
  if Window.isKey key then
    match value.plainText?.filter (· ≠ "") with
    | some field => inWindow key field value now
    | none =>
      .error (.invalidFilterValue key "range filters take the field name as value")
  else .error (.unknownFilterKey key)

/-- The constraint of one filter, if its value constrains anything. -/
def resolve (key : String) (value : FilterValue) (rule : Option FilterRule) (table : String)
    (now : Timestamp) : Except StatError (Option Constraint) :=
  if value.isNull then .ok none
  else match rule with
    | some rule => (rule.apply key value table now key).map some
    | none => (applyDefault key value now).map some

end FilterRule

end Statbook
