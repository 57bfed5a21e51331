import Statbook.Cache.Fingerprint
import Statbook.Proofs.Filter.Json
import Statbook.Proofs.Text.Bytes

/-!
# What a fingerprint is made of

The bytes that are digested say which model, which statistic and which filters are asked for, except
for filters without a value, for which float that is no number is meant and for which of the times
that a clock shows alike.
-/

namespace Statbook

/-- The bytes say which model and statistic are meant, and what is left of the filters. -/
theorem kernel_eq_of_fingerprintBytes_eq {model model' statistic statistic' : String}
    {filters filters' : Filters} (same : fingerprintBytes model statistic filters =
      fingerprintBytes model' statistic' filters') :
    model = model' ∧ statistic = statistic' ∧ filters.kernel = filters'.kernel := by
  have texts := Text.bytes_injective same
  rw [Json.render_eq_iff] at texts
  rw [Filters.kernel_eq_iff, ← Filters.settled_pairsToJson_eq_iff]
  simpa [fingerprintJson, Json.settled, Json.settledMembers] using texts

/-- Under each key they say what is left of the value. -/
theorem lookup_eq_of_fingerprintBytes_eq {model model' statistic statistic' : String}
    {filters filters' : Filters} (same : fingerprintBytes model statistic filters =
      fingerprintBytes model' statistic' filters') (key : String) :
    filters.kernel.pairs.lookup key = filters'.kernel.pairs.lookup key :=
  congrArg (·.pairs.lookup key) (kernel_eq_of_fingerprintBytes_eq same).2.2

theorem fingerprintBytes_congr (model statistic : String) {filters filters' : Filters}
    (same : filters.kernel = filters'.kernel) :
    fingerprintBytes model statistic filters = fingerprintBytes model statistic filters' := by
  rw [Filters.kernel_eq_iff, ← Filters.settled_pairsToJson_eq_iff] at same
  have texts : (fingerprintJson model statistic filters).render =
      (fingerprintJson model statistic filters').render := by
    rw [Json.render_eq_iff]
    simp [fingerprintJson, Json.settled, Json.settledMembers, same]
  rw [fingerprintBytes, fingerprintBytes, texts]

/-- The bytes of two questions are the same exactly if the models and the statistics are, and the
filters differ only in those without a value, in infinities and in times that are shown alike. -/
theorem fingerprintBytes_eq_iff (model model' statistic statistic' : String)
    (filters filters' : Filters) :
    fingerprintBytes model statistic filters = fingerprintBytes model' statistic' filters' ↔
      model = model' ∧ statistic = statistic' ∧ filters.kernel = filters'.kernel := by
  constructor
  · exact kernel_eq_of_fingerprintBytes_eq
  · rintro ⟨rfl, rfl, same⟩
    exact fingerprintBytes_congr model statistic same

/-- Filters with nothing for a team, an infinity and a leap second that no clock face has. -/
def rawFilters : Filters :=
  .ofList [("at", .timestamp .eveningLeap), ("price", .float (1.0 / 0.0)),
    ("tags", .list [.null]), ("team", .null)]

/-- The same with no team, with the other infinity and with the time that is shown. -/
def plainFilters : Filters :=
  .ofList [("at", .timestamp Timestamp.eveningLeap.shown), ("price", .float (-1.0 / 0.0)),
    ("tags", .list [.null])]

/-- The bytes of these are the same, and other ones where a list holds nothing or is empty, where a
value is an integer or its text, or where a float is one zero or the other. -/
theorem fingerprintBytes_rawFilters : rawFilters.size = 4 ∧ plainFilters.size = 3 ∧
    fingerprintBytes "Item" "Sold" rawFilters = fingerprintBytes "Item" "Sold" plainFilters ∧
    fingerprintBytes "Item" "Sold" plainFilters ≠
      fingerprintBytes "Item" "Sold" (plainFilters.insert "tags" (.list [])) ∧
    fingerprintBytes "Item" "Sold" (.ofList [("size", .int 1)]) ≠
      fingerprintBytes "Item" "Sold" (.ofList [("size", .text "1")]) ∧
    fingerprintBytes "Item" "Sold" (.ofList [("price", .float 0.0)]) ≠
      fingerprintBytes "Item" "Sold" (.ofList [("price", .float (-0.0))]) := by
  refine ⟨rfl, rfl, ?_, ?_, ?_, ?_⟩
  · refine (fingerprintBytes_eq_iff _ _ _ _ _ _).mpr ⟨rfl, rfl, ?_⟩
    rw [Filters.kernel_eq_iff]
    rfl
  · intro same
    have tags : some (FilterValue.list [.null]) = some (.list []) :=
      lookup_eq_of_fingerprintBytes_eq same "tags"
    nomatch tags
  · intro same
    have size : some (FilterValue.int 1) = some (.text "1") :=
      lookup_eq_of_fingerprintBytes_eq same "size"
    nomatch size
  · intro same
    have price : some (FilterValue.float 0.0) = some (.float (-0.0)) :=
      lookup_eq_of_fingerprintBytes_eq same "price"
    have zeros : (0.0 : Float) = -0.0 := by
      injection price with values
      injection values
    exact absurd zeros (by decide)

/-- A filter for one time. -/
def filtersAt (t : Timestamp) : Filters :=
  .ofList [("at", .timestamp t)]

/-- Different filters without nothing and without floats may have the same bytes: those for two times
that a clock shows alike. -/
theorem fingerprintBytes_of_shown_alike :
    (∀ t, (filtersAt t).pairs = [("at", .timestamp t)]) ∧
    Timestamp.eveningLeap ≠ Timestamp.eveningLeap.shown ∧
    fingerprintBytes "Item" "Sold" (filtersAt .eveningLeap) =
      fingerprintBytes "Item" "Sold" (filtersAt Timestamp.eveningLeap.shown) := by
  refine ⟨fun _ => rfl, by decide, fingerprintBytes_congr _ _ ?_⟩
  rw [Filters.kernel_eq_iff]
  rfl

theorem length_digest (bytes : List UInt8) : (Blake3.digest bytes).length = 32 := by
  have word (w : UInt32) : (Blake3.wordBytes w).length = 4 := rfl
  simp [Blake3.digest, List.length_flatMap, word]

theorem length_hexDigest (bytes : List UInt8) : (Blake3.hexDigest bytes).toList.length = 64 := by
  simp [Blake3.hexDigest, List.length_flatMap, length_digest]

/-- A fingerprint ends in the digest, which has a fixed length. -/
theorem hexDigest_eq_of_fingerprint_eq {model model' statistic statistic' : String}
    {filters filters' : Filters}
    (same : fingerprint model statistic filters = fingerprint model' statistic' filters') :
    Blake3.hexDigest (fingerprintBytes model statistic filters) =
      Blake3.hexDigest (fingerprintBytes model' statistic' filters') := by
  have chars := congrArg String.toList same
  simp only [fingerprint, String.toList_append] at chars
  have lengths := length_hexDigest (fingerprintBytes model statistic filters)
  rw [← length_hexDigest (fingerprintBytes model' statistic' filters')] at lengths
  exact String.toList_inj.mp (List.append_inj_right' chars lengths)

theorem fingerprint_eq_of_kernel_eq (model statistic : String) {filters filters' : Filters}
    (same : filters.kernel = filters'.kernel) :
    fingerprint model statistic filters = fingerprint model statistic filters' := by
  rw [fingerprint, fingerprint, fingerprintBytes_congr model statistic same]

end Statbook
