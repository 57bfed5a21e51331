import Statbook.Proofs.Calendar.Text
import Statbook.Proofs.Filter.Valued
import Statbook.Proofs.Json.Text

/-!
# Filters as JSON

What the JSON text of filters says about them: everything but which float that is no number a value
holds, and whether a time is one that a clock shows or a leap second that is shown like it. Each
kind of value has a name of its own, so values of two kinds never share a text.
-/

namespace Statbook

namespace FilterValue

/-- The float that stands for all floats without JSON numbers. -/
def noNumber : Float := 0.0 / 0.0

theorem not_isFinite_noNumber : ¬Decimal.isFinite noNumber := by decide

mutual

/-- The value with "not a number" in place of the infinities and with the times that a clock shows,
at any depth. -/
def merged : FilterValue → FilterValue
  | null => null
  | bool value => bool value
  | int value => int value
  | float value => float (if Decimal.isFinite value then value else noNumber)
  | text value => text value
  | date value => date value
  | timestamp value => timestamp value.shown
  | range first last => range first.shown last.shown
  | list items => list (mergedItems items)

/-- Values with the infinities and the times replaced, one by one. -/
def mergedItems : List FilterValue → List FilterValue
  | [] => []
  | item :: items => item.merged :: mergedItems items

end

mutual

/-- Whether all floats of a value, at any depth, have JSON numbers. -/
def hasNumbers : FilterValue → Bool
  | float value => Decimal.isFinite value
  | list items => haveNumbers items
  | null | bool _ | int _ | text _ | date _ | timestamp _ | range .. => true

/-- Whether all floats of some values have JSON numbers. -/
def haveNumbers : List FilterValue → Bool
  | [] => true
  | item :: items => item.hasNumbers && haveNumbers items

end

mutual

/-- Whether a clock face has all times of a value, at any depth. -/
def onFace : FilterValue → Bool
  | timestamp value => value.time.OnFace
  | range first last => first.time.OnFace ∧ last.time.OnFace
  | list items => areOnFace items
  | null | bool _ | int _ | float _ | text _ | date _ => true

/-- Whether a clock face has all times of some values. -/
def areOnFace : List FilterValue → Bool
  | [] => true
  | item :: items => item.onFace && areOnFace items

end

mutual

/-- A value without infinities and with times of a clock face is left as it is. -/
theorem merged_eq_self (v : FilterValue) (numbers : v.hasNumbers) (there : v.onFace) :
    v.merged = v := by
  cases v with
  | null | bool _ | int _ | text _ | date _ => rfl
  | float value =>
    have finite : Decimal.isFinite value := numbers
    rw [merged, if_pos finite]
  | timestamp value =>
    rw [onFace, decide_eq_true_eq] at there
    rw [merged, Timestamp.shown_of_onFace there]
  | range first last =>
    rw [onFace, decide_eq_true_eq] at there
    rw [merged, Timestamp.shown_of_onFace there.1, Timestamp.shown_of_onFace there.2]
  | list items => rw [merged, mergedItems_eq_self items numbers there]

theorem mergedItems_eq_self (items : List FilterValue) (numbers : haveNumbers items)
    (there : areOnFace items) : mergedItems items = items := by
  cases items with
  | nil => rfl
  | cons item items =>
    obtain ⟨front, back⟩ := Bool.and_eq_true_iff.mp numbers
    obtain ⟨frontThere, backThere⟩ := Bool.and_eq_true_iff.mp there
    rw [mergedItems, merged_eq_self item front frontThere,
      mergedItems_eq_self items back backThere]

end

/-- The name that the JSON form of a value gives its kind. -/
def kind : FilterValue → String
  | null => "null"
  | bool _ => "bool"
  | int _ => "int"
  | float _ => "float"
  | text _ => "text"
  | date _ => "date"
  | timestamp _ => "date_time"
  | range .. => "range"
  | list _ => "list"

/-- The members of the JSON form of a value behind the name of its kind. -/
def body : FilterValue → List (String × Json)
  | null => []
  | bool value => [("value", .bool value)]
  | int value => [("value", .integer value.toInt)]
  | float value => [("value", .float value)]
  | text value => [("value", .text value)]
  | date value => [("value", .text value.text)]
  | timestamp value => [("value", .text value.jsonText)]
  | range first last => [("value", .array [.text first.jsonText, .text last.jsonText])]
  | list items => [("value", .array (itemsToJson items))]

theorem toJson_eq (v : FilterValue) : v.toJson = .object (("type", .text v.kind) :: v.body) := by
  cases v <;> simp [toJson, tagged, kind, body]

/-- The settled JSON form of a value tells its kind and its settled body. -/
theorem settled_toJson (v : FilterValue) : v.toJson.settled =
    .object (("type", .text v.kind) :: Json.settledMembers v.body) := by
  rw [toJson_eq, Json.settled, Json.settledMembers_cons, Json.settled]

theorem merged_float_of_settled {x y : Float}
    (same : (Json.float x).settled = (Json.float y).settled) :
    (float x).merged = (float y).merged := by
  rw [Json.settled, Json.settled] at same
  rw [merged, merged]
  split at same
  · split at same
    · rename_i finite finite'
      rw [if_pos finite, if_pos finite', Json.float.inj same]
    · exact absurd same Json.noConfusion
  · split at same
    · exact absurd same Json.noConfusion
    · rename_i infinite infinite'
      rw [if_neg infinite, if_neg infinite']

mutual

/-- Values whose JSON forms settle to the same differ only in infinities and in times that are shown
alike. -/
theorem merged_of_settled (v w : FilterValue) (same : v.toJson.settled = w.toJson.settled) :
    v.merged = w.merged := by
  rw [settled_toJson, settled_toJson] at same
  obtain ⟨kinds, bodies⟩ := List.cons.inj (Json.object.inj same)
  have kinds : v.kind = w.kind := by simpa using kinds
  -- The names of the kinds leave one case for each kind, where the bodies are compared.
  cases v with
  | null => cases w <;> first | rfl | simp [kind] at kinds
  | bool value =>
    cases w with
    | bool value' =>
      have values : value = value' := by simpa [body, Json.settledMembers, Json.settled] using bodies
      rw [values]
    | _ => simp [kind] at kinds
  | int value =>
    cases w with
    | int value' =>
      have values : value.toInt = value'.toInt := by
        simpa [body, Json.settledMembers, Json.settled] using bodies
      rw [Int64.toInt_inj.mp values]
    | _ => simp [kind] at kinds
  | float value =>
    cases w with
    | float value' =>
      have values : (Json.float value).settled = (Json.float value').settled := by
        simpa [body, Json.settledMembers] using bodies
      exact merged_float_of_settled values
    | _ => simp [kind] at kinds
  | text value =>
    cases w with
    | text value' =>
      have values : value = value' := by simpa [body, Json.settledMembers, Json.settled] using bodies
      rw [values]
    | _ => simp [kind] at kinds
  | date value =>
    cases w with
    | date value' =>
      have values : value.text = value'.text := by
        simpa [body, Json.settledMembers, Json.settled] using bodies
      rw [Date.text_injective values]
    | _ => simp [kind] at kinds
  | timestamp value =>
    cases w with
    | timestamp value' =>
      have values : value.jsonText = value'.jsonText := by
        simpa [body, Json.settledMembers, Json.settled] using bodies
      rw [merged, merged, Timestamp.jsonText_eq_iff.mp values]
    | _ => simp [kind] at kinds
  | range first last =>
    cases w with
    | range first' last' =>
      have values : first.jsonText = first'.jsonText ∧ last.jsonText = last'.jsonText := by
        simpa [body, Json.settledMembers, Json.settled, Json.settledItems] using bodies
      rw [merged, merged, Timestamp.jsonText_eq_iff.mp values.1,
        Timestamp.jsonText_eq_iff.mp values.2]
    | _ => simp [kind] at kinds
  | list items =>
    cases w with
    | list items' =>
      have values : Json.settledItems (itemsToJson items) =
          Json.settledItems (itemsToJson items') := by
        simpa [body, Json.settledMembers, Json.settled] using bodies
      rw [merged, merged, mergedItems_of_settled items items' values]
    | _ => simp [kind] at kinds

theorem mergedItems_of_settled (items items' : List FilterValue)
    (same : Json.settledItems (itemsToJson items) = Json.settledItems (itemsToJson items')) :
    mergedItems items = mergedItems items' := by
  cases items with
  | nil =>
    cases items' with
    | nil => rfl
    | cons item' items' => exact absurd same (List.cons_ne_nil _ _).symm
  | cons item items =>
    cases items' with
    | nil => exact absurd same (List.cons_ne_nil _ _)
    | cons item' items' =>
      obtain ⟨front, back⟩ := List.cons.inj same
      rw [mergedItems, mergedItems, merged_of_settled item item' front,
        mergedItems_of_settled items items' back]

end

mutual

/-- What is replaced does not show in the settled JSON form. -/
theorem settled_toJson_merged (v : FilterValue) : v.merged.toJson.settled = v.toJson.settled := by
  cases v with
  | null | bool _ | int _ | text _ | date _ => rfl
  | timestamp value => rw [merged, toJson, toJson, Timestamp.jsonText_shown]
  | range first last =>
    rw [merged, toJson, toJson, first.jsonText_shown, last.jsonText_shown]
  | float value =>
    rw [merged]
    split
    · rfl
    · rename_i infinite
      simp [settled_toJson, kind, body, Json.settledMembers, Json.settled, infinite,
        not_isFinite_noNumber]
  | list items =>
    simp [merged, settled_toJson, kind, body, Json.settledMembers, Json.settled,
      settledItems_mergedItems items]

theorem settledItems_mergedItems (items : List FilterValue) :
    Json.settledItems (itemsToJson (mergedItems items)) =
      Json.settledItems (itemsToJson items) := by
  cases items with
  | nil => rfl
  | cons item items =>
    rw [mergedItems, itemsToJson, itemsToJson, Json.settledItems_cons, Json.settledItems_cons,
      settled_toJson_merged item, settledItems_mergedItems items]

end

/-- The JSON forms of two values settle to the same exactly if the values differ only in infinities
and in times that are shown alike. -/
theorem settled_toJson_eq_iff (v w : FilterValue) :
    v.toJson.settled = w.toJson.settled ↔ v.merged = w.merged := by
  constructor
  · exact merged_of_settled v w
  · intro same
    rw [← settled_toJson_merged v, same, settled_toJson_merged w]

end FilterValue

namespace Filters

/-- Pairs with the infinities and the times in their values replaced. -/
def mergedPairs (pairs : List (String × FilterValue)) : List (String × FilterValue) :=
  pairs.map fun pair => (pair.1, pair.2.merged)

/-- The filters that have a value, with the infinities and the times in their values replaced. -/
def kernel (filters : Filters) : Filters where
  pairs := mergedPairs filters.valued
  ascending := by
    rw [mergedPairs, List.pairwise_map]
    exact filters.ascending_valued

/-- Whether all floats of the filters have JSON numbers. -/
def HaveNumbers (filters : Filters) : Prop :=
  ∀ pair ∈ filters.pairs, pair.2.hasNumbers

instance (filters : Filters) : Decidable filters.HaveNumbers :=
  inferInstanceAs (Decidable (∀ pair ∈ filters.pairs, _))

/-- Whether a clock face has all times of the filters. -/
def OnFace (filters : Filters) : Prop :=
  ∀ pair ∈ filters.pairs, pair.2.onFace

instance (filters : Filters) : Decidable filters.OnFace :=
  inferInstanceAs (Decidable (∀ pair ∈ filters.pairs, _))

theorem kernel_eq_iff {filters filters' : Filters} : filters.kernel = filters'.kernel ↔
    mergedPairs filters.effective = mergedPairs filters'.effective := by
  rw [Filters.mk.injEq, effective_eq_valued, effective_eq_valued]
  rfl

/-- Without infinities and times beside the clock face the kernel tells what the filters
constrain. -/
theorem effective_eq_of_kernel_eq {filters filters' : Filters} (numbers : filters.HaveNumbers)
    (numbers' : filters'.HaveNumbers) (there : filters.OnFace) (there' : filters'.OnFace)
    (same : filters.kernel = filters'.kernel) : filters.effective = filters'.effective := by
  have untouched (filters : Filters) (numbers : filters.HaveNumbers) (there : filters.OnFace) :
      mergedPairs filters.effective = filters.effective := by
    refine (List.map_congr_left fun pair member => ?_).trans (List.map_id _)
    have member := List.mem_of_mem_filter member
    rw [FilterValue.merged_eq_self pair.2 (numbers pair member) (there pair member)]
    rfl
  rw [← untouched filters numbers there, ← untouched filters' numbers' there']
  exact kernel_eq_iff.mp same

/-- Filters with one kernel give values to the same keys. -/
theorem keys_eq_of_kernel_eq {filters filters' : Filters} (same : filters.kernel = filters'.kernel) :
    filters.effective.map Prod.fst = filters'.effective.map Prod.fst := by
  have pairs := congrArg (List.map Prod.fst) (kernel_eq_iff.mp same)
  simpa [mergedPairs, List.map_map, Function.comp_def] using pairs

/-- The JSON forms of two lists of pairs settle to the same exactly if the values differ only in
infinities and in times that are shown alike. -/
theorem settled_pairsToJson_eq_iff (pairs pairs' : List (String × FilterValue)) :
    (pairsToJson pairs).settled = (pairsToJson pairs').settled ↔
      mergedPairs pairs = mergedPairs pairs' := by
  have members : (pairsToJson pairs).settled = (pairsToJson pairs').settled ↔
      Json.settledMembers (pairs.map fun pair => (pair.1, pair.2.toJson)) =
        Json.settledMembers (pairs'.map fun pair => (pair.1, pair.2.toJson)) := by
    simp [pairsToJson, Json.settled]
  rw [members]
  clear members
  induction pairs generalizing pairs' with
  | nil => cases pairs' <;> simp [mergedPairs, Json.settledMembers]
  | cons pair pairs ih =>
    cases pairs' with
    | nil => simp [mergedPairs, Json.settledMembers]
    | cons pair' pairs' =>
      rw [mergedPairs, mergedPairs, List.map_cons, List.map_cons, List.map_cons, List.map_cons,
        Json.settledMembers_cons, Json.settledMembers_cons, List.cons.injEq, List.cons.injEq,
        Prod.mk.injEq, Prod.mk.injEq, FilterValue.settled_toJson_eq_iff]
      exact and_congr_right fun _ => ih pairs'

end Filters

end Statbook
