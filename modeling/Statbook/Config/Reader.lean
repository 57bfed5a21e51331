import Statbook.Config.Basic
import Statbook.Toml.Document

/-!
# Reading configurations

A configuration is a TOML document. What it leaves out has a default, keys that mean nothing
here are passed over, and a value of the wrong kind is refused. A group of settings may be
written as a table or as an array of their values in order.
-/

namespace Statbook

open Toml

namespace Toml.Value

/-- The settings of a group whose names in order are `names`. A moment sets none of them. -/
def settings? (names : List String) : Value → Option Entries
  | table _ entries => some entries
  | moment _ => some []
  | value => value.items?.map names.zip

/-- The number below `bound` that a value is. -/
def below? (bound : Nat) (value : Value) : Option Nat :=
  value.integer?.bind fun n => if 0 ≤ n ∧ n < bound then some n.toNat else none

/-- The items of an array, each read. -/
def listOf? {α : Type} (read : Value → Option α) (value : Value) : Option (List α) :=
  value.items?.bind fun items => items.mapM read

/-- The entries of a table in the order of their keys, each value read. -/
def mapOf? {α : Type} (read : Value → Option α) (value : Value) :
    Option (List (String × α)) :=
  value.entries?.bind fun entries =>
    (entries.mergeSort fun a b => a.1 ≤ b.1).mapM fun (key, value) =>
      (read value).map fun read => (key, read)

/-- The word that a value chooses: a text, or the key of a table that holds nothing else but
an empty value. -/
def choice? : Value → Option String
  | text word => some word
  | table _ [(word, table _ [])] => some word
  | table _ [(word, array [])] => some word
  | _ => none

mutual

/-- Whether all integers in a value fit into 64 bits, with a sign or without. -/
def isNarrow : Value → Bool
  | integer n => Int64.minValue.toInt ≤ n && n < UInt64.size
  | array items => areNarrow items
  | table _ entries => entriesNarrow entries
  | tables elements => elementsNarrow elements
  | _ => true

/-- Whether that is so of all values. -/
def areNarrow : List Value → Bool
  | [] => true
  | value :: values => isNarrow value && areNarrow values

/-- Whether that is so of the values of all entries. -/
def entriesNarrow : List (String × Value) → Bool
  | [] => true
  | (_, value) :: entries => isNarrow value && entriesNarrow entries

/-- Whether that is so in all elements. -/
def elementsNarrow : List (List (String × Value)) → Bool
  | [] => true
  | entries :: elements => entriesNarrow entries && elementsNarrow elements

end

end Toml.Value

namespace Toml.Entries

/-- The value of a setting, read; the default where it is left out. -/
def getOr {α : Type} (entries : Entries) (key : String) (default : α)
    (read : Value → Option α) : Option α :=
  match entries.lookup key with
  | some value => read value
  | none => some default

/-- The value of a setting that may be left out, read. -/
def optional? {α : Type} (entries : Entries) (key : String) (read : Value → Option α) :
    Option (Option α) :=
  entries.getOr key none fun value => (read value).map some

/-- The value of a setting that has to be there, read. -/
def required? {α : Type} (entries : Entries) (key : String) (read : Value → Option α) :
    Option α :=
  (entries.lookup key).bind read

end Toml.Entries

/-- The rule that a value declares. -/
def DeclaredRule.ofToml? (value : Value) : Option DeclaredRule :=
  match value with
  | .text pattern => some (.brief pattern)
  | _ => do
    let names := ["rule", "field", "on", "pattern"]
    let settings ← value.settings? names
    if !value.isNarrow || (value.items?.any fun items => names.length < items.length) then none
    else
      let kind ← settings.required? "rule" fun v => v.text?.bind RuleKind.ofName?
      let field ← settings.optional? "field" Value.text?
      let column ← settings.optional? "on" Value.text?
      let pattern ← settings.optional? "pattern" Value.text?
      pure (.detailed kind field column pattern)

/-- The rules that a value declares. -/
def DeclaredRules.ofToml? (value : Value) : Option DeclaredRules :=
  value.mapOf? DeclaredRule.ofToml?

/-- The settings for retrying that a value declares. -/
def RetrySettings.ofToml? (value : Value) : Option RetrySettings := do
  let settings ← value.settings? ["max_attempts", "base_ms", "max_ms", "retryable"]
  let maxAttempts ← settings.optional? "max_attempts" (Value.below? UInt32.size)
  let baseMillis ← settings.optional? "base_ms" (Value.below? UInt64.size)
  let maxMillis ← settings.optional? "max_ms" (Value.below? UInt64.size)
  let retryable ← settings.optional? "retryable"
    (Value.listOf? fun v => v.choice?.bind FailureKind.ofName?)
  pure {
    maxAttempts := maxAttempts.map UInt32.ofNat
    baseMillis := baseMillis.map UInt64.ofNat
    maxMillis := maxMillis.map UInt64.ofNat
    retryable }

/-- The statistic that a value declares. -/
def StatisticConfig.ofToml? (value : Value) : Option StatisticConfig := do
  let settings ← value.settings?
    ["name", "operation", "column", "scopes", "filters", "conditions", "joins", "cache_for_secs"]
  let texts (key : String) := settings.getOr key [] (Value.listOf? Value.text?)
  let name ← settings.required? "name" Value.text?
  let operation ← settings.getOr "operation" .count fun v => v.choice?.bind Operation.ofName?
  let column ← settings.getOr "column" defaultColumn Value.text?
  let scopes ← texts "scopes"
  let rules ← settings.getOr "filters" [] DeclaredRules.ofToml?
  let conditions ← texts "conditions"
  let joins ← texts "joins"
  let ttl ← settings.optional? "cache_for_secs" (Value.below? UInt64.size)
  pure ⟨name, operation, column, scopes, rules, conditions, joins, ttl.map UInt64.ofNat⟩

/-- The model that a value declares. -/
def ModelConfig.ofToml? (value : Value) : Option ModelConfig := do
  let settings ← value.settings? ["name", "table", "scopes", "filters", "statistics"]
  let name ← settings.required? "name" Value.text?
  let table ← settings.required? "table" Value.text?
  let scopes ← settings.getOr "scopes" [] (Value.mapOf? (Value.listOf? Value.text?))
  let rules ← settings.getOr "filters" [] DeclaredRules.ofToml?
  let statistics ← settings.getOr "statistics" [] (Value.listOf? StatisticConfig.ofToml?)
  pure ⟨name, table, scopes, rules, statistics⟩

namespace Config

/-- The setting of a group with one setting. -/
def onlySetting? {α : Type} (key : String) (default : α) (read : Value → Option α)
    (value : Value) : Option α :=
  (value.settings? [key]).bind fun settings => settings.getOr key default read

/-- The configuration that the entries of a document declare. -/
def ofToml? (entries : Entries) : Option Config := do
  let capacity ← entries.getOr "cache" defaultCapacity
    (onlySetting? "capacity" defaultCapacity (Value.below? UInt64.size))
  let retry ← entries.getOr "retry" .none RetrySettings.ofToml?
  let rules ← entries.getOr "defaults" [] (onlySetting? "filters" [] DeclaredRules.ofToml?)
  let models ← entries.getOr "models" [] (Value.listOf? ModelConfig.ofToml?)
  pure ⟨capacity, retry, rules, models⟩

/-- The sound configuration that a text declares. -/
def ofText (text : String) : Except ConfigError Config :=
  match (readDocument? text).bind ofToml? with
  | none => .error .unparsable
  | some config =>
    match config.flaw? with
    | some flaw => .error (.flawed flaw)
    | none => .ok config

end Config

end Statbook
