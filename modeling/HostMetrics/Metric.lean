/-!
# The metrics

The metrics are a fixed catalog. Its order is the order in which a
configuration lists its metrics and in which instruments are registered.
-/

namespace HostMetrics

/-- A metric of the catalog. -/
inductive Metric where
  | cpuTime | cpuUtilization
  | memoryUsage | memoryUtilization
  | swapUsage | swapUtilization
  | diskBytes | diskOperations | diskTime | diskMerged
  | networkDropped | networkPackets | networkErrors | networkBytes | networkConnections
  | runtimeMemory | runtimeCpuTime | runtimeGcCount
deriving DecidableEq, Repr

namespace Metric

/-- The catalog, in its order. -/
def all : List Metric :=
  [cpuTime, cpuUtilization, memoryUsage, memoryUtilization, swapUsage, swapUtilization,
    diskBytes, diskOperations, diskTime, diskMerged, networkDropped, networkPackets,
    networkErrors, networkBytes, networkConnections, runtimeMemory, runtimeCpuTime,
    runtimeGcCount]

/-- The name of a metric, which is also its key in a configuration. -/
def name : Metric → String
  | cpuTime => "system.cpu.time"
  | cpuUtilization => "system.cpu.utilization"
  | memoryUsage => "system.memory.usage"
  | memoryUtilization => "system.memory.utilization"
  | swapUsage => "system.swap.usage"
  | swapUtilization => "system.swap.utilization"
  | diskBytes => "system.disk.io"
  | diskOperations => "system.disk.operations"
  | diskTime => "system.disk.time"
  | diskMerged => "system.disk.merged"
  | networkDropped => "system.network.dropped.packets"
  | networkPackets => "system.network.packets"
  | networkErrors => "system.network.errors"
  | networkBytes => "system.network.io"
  | networkConnections => "system.network.connections"
  | runtimeMemory => "runtime.memory"
  | runtimeCpuTime => "runtime.cpu.time"
  | runtimeGcCount => "runtime.gc_count"

/-- The metric with the given name. -/
def ofName? (s : String) : Option Metric :=
  all.find? (fun metric => metric.name == s)

/-- The place of a metric in the catalog. -/
def position (metric : Metric) : Nat := all.idxOf metric

theorem mem_all (metric : Metric) : metric ∈ all := by
  cases metric <;> decide

theorem nodup_all : all.Nodup := by decide

@[simp] theorem ofName?_name (metric : Metric) : ofName? metric.name = some metric := by
  cases metric <;> decide

theorem name_of_ofName? {s : String} {metric : Metric} (h : ofName? s = some metric) :
    metric.name = s := by
  simpa using List.find?_some h

end Metric

end HostMetrics
