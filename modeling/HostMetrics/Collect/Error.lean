import HostMetrics.Metric
import HostMetrics.Reading
import HostMetrics.Text.Numeral

/-!
# Why a metric cannot be measured
-/

namespace HostMetrics

/-- A cause for having no measurements of a metric. -/
inductive CollectError where
  /-- The metric is not configured. -/
  | notConfigured (metric : Metric)
  /-- A field of an interface metric is no direction. -/
  | unknownDirection (metric : Metric) (field : String)
  /-- A connection is of a kind that no protocol is known for. -/
  | unknownProtocol (kind : UInt32)
  /-- A field of the connection metric is no field of a connection. -/
  | unsupportedField (metric : Metric) (field : String)
  /-- The source cannot tell what the metric is measured from. -/
  | reading (cause : ReadError)
deriving DecidableEq, Repr

/-- The words in which it is reported. -/
def CollectError.message : CollectError → String
  | .notConfigured metric => "metric " ++ metric.name ++ " is not configured"
  | .unknownDirection metric field =>
    "unknown direction '" ++ field ++ "' configured for " ++ metric.name
  | .unknownProtocol kind => 
    "unknown connection protocol code " ++ String.ofList (Text.decimal kind.toNat)
  | .unsupportedField metric field =>
    "field '" ++ field ++ "' is not supported by " ++ metric.name
  | .reading cause => cause.message

end HostMetrics
