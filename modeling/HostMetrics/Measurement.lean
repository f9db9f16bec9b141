import HostMetrics.Label.Json

/-!
# Measurements

A measurement is a value and the labels that tell what it is the value of.
-/

namespace HostMetrics

/-- A value and its labels. -/
structure Measurement where
  /-- The value. -/
  value : Float
  /-- The labels. -/
  labels : LabelSet

/-- The JSON text of a measurement. -/
def Measurement.json (m : Measurement) : List Char :=
  Json.object [("value".toList, Json.float m.value), ("labels".toList, m.labels.json)]

end HostMetrics
