import Statbook.Digest.Blake3
import Statbook.Filter.Filters

/-!
# Fingerprints

The key under which the value of a statistic is cached: the names of the model and of the
statistic, and a digest of both together with the filters that constrain something.
-/

namespace Statbook

/-- What a fingerprint is a digest of. -/
def fingerprintJson (model statistic : String) (filters : Filters) : Json :=
  .object [("model", .text model), ("statistic", .text statistic),
    ("filters", Filters.pairsToJson filters.effective)]

/-- The bytes that a fingerprint is a digest of. -/
def fingerprintBytes (model statistic : String) (filters : Filters) : List UInt8 :=
  (fingerprintJson model statistic filters).render.toUTF8.toList

/-- The cache key of a statistic under some filters. -/
def fingerprint (model statistic : String) (filters : Filters) : String :=
  model ++ "/" ++ statistic ++ "/" ++ Blake3.hexDigest (fingerprintBytes model statistic filters)

end Statbook
