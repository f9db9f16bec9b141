import HostMetrics.Json.Shape
import HostMetrics.Json.Written
import HostMetrics.Metric

/-!
# Instruments

A metric is exported as an instrument, which has a name, a kind, a unit
and a description. The metrics of the collecting process itself carry the
name of its runtime in theirs.
-/

namespace HostMetrics

open Json

/-- The kinds of instrument. -/
inductive InstrumentKind where
  /-- A value that only grows. -/
  | counter
  /-- A value at a point in time. -/
  | gauge
  /-- A value that goes up and down by counting. -/
  | upDownCounter
deriving DecidableEq, Repr

namespace InstrumentKind

/-- Every kind. -/
def all : List InstrumentKind := [counter, gauge, upDownCounter]

/-- The name of a kind where it is exported. -/
def name : InstrumentKind → String
  | counter => "counter"
  | gauge => "gauge"
  | upDownCounter => "up_down_counter"

/-- The name of a kind where it is logged. -/
def title : InstrumentKind → String
  | counter => "Counter"
  | gauge => "Gauge"
  | upDownCounter => "UpDownCounter"

/-- The kind with the given name. -/
def ofName? (s : String) : Option InstrumentKind := all.find? (fun kind => kind.name == s)

end InstrumentKind

/-- The instrument of a metric. -/
structure Instrument where
  /-- The metric. -/
  metric : Metric
  /-- The exported name. -/
  name : String
  /-- The kind. -/
  kind : InstrumentKind
  /-- The unit of the values. -/
  unit : String
  /-- The description. -/
  description : String
deriving DecidableEq, Repr

namespace Instrument

/-- The instrument of a metric, exported under the metric's own name. -/
def plain (metric : Metric) (kind : InstrumentKind) (unit description : String) : Instrument :=
  ⟨metric, metric.name, kind, unit, description⟩

/-- The instrument of a metric of the collecting process. -/
def ofRuntime (metric : Metric) (runtime field unit description : String) : Instrument :=
  ⟨metric, "runtime." ++ runtime ++ "." ++ field, .counter, unit,
    "Runtime " ++ runtime ++ " " ++ description⟩

/-- The instrument of a metric, for a process with the given runtime. -/
def ofMetric (runtime : String) : Metric → Instrument
  | .cpuTime => plain .cpuTime .counter "seconds" "System CPU time"
  | .cpuUtilization => plain .cpuUtilization .gauge "1" "System CPU utilization"
  | .memoryUsage => plain .memoryUsage .gauge "bytes" "System memory usage"
  | .memoryUtilization => plain .memoryUtilization .gauge "1" "System memory utilization"
  | .swapUsage => plain .swapUsage .gauge "bytes" "System swap usage"
  | .swapUtilization => plain .swapUtilization .gauge "1" "System swap utilization"
  | .diskBytes => plain .diskBytes .counter "bytes" "System disk IO"
  | .diskOperations => plain .diskOperations .counter "operations" "System disk operations"
  | .diskTime => plain .diskTime .counter "seconds" "System disk time"
  | .diskMerged => plain .diskMerged .counter "operations" "System disk merged operations"
  | .networkDropped =>
    ⟨.networkDropped, "system.network.dropped_packets", .counter, "packets",
      "System network dropped packets"⟩
  | .networkPackets => plain .networkPackets .counter "packets" "System network packets"
  | .networkErrors => plain .networkErrors .counter "errors" "System network errors"
  | .networkBytes => plain .networkBytes .counter "bytes" "System network io"
  | .networkConnections =>
    plain .networkConnections .upDownCounter "connections" "System network connections"
  | .runtimeMemory => ofRuntime .runtimeMemory runtime "memory" "bytes" "memory"
  | .runtimeCpuTime => ofRuntime .runtimeCpuTime runtime "cpu_time" "seconds" "CPU time"
  | .runtimeGcCount => ofRuntime .runtimeGcCount runtime "gc_count" "collections" "GC count"

@[simp] theorem metric_ofMetric (runtime : String) (metric : Metric) :
    (ofMetric runtime metric).metric = metric := by
  cases metric <;> rfl

/-- The JSON text of an instrument. -/
def json (i : Instrument) : List Char :=
  object [
    ("metric".toList, quoted i.metric.name.toList),
    ("name".toList, quoted i.name.toList),
    ("kind".toList, quoted i.kind.name.toList),
    ("unit".toList, quoted i.unit.toList),
    ("description".toList, quoted i.description.toList)]

end Instrument

end HostMetrics
