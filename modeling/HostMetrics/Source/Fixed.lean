import HostMetrics.Reading
import HostMetrics.Text.Lowercase

/-!
# A source of fixed records

A source that answers each question with a record it was given.
-/

namespace HostMetrics

/-- The records of a fixed source. -/
structure FixedSource where
  /-- The times of each CPU. -/
  cpuTimes : List CpuTimes
  /-- The shares of each CPU's time. -/
  cpuShares : List CpuTimes
  /-- The memory of the system. -/
  memory : MemoryUse
  /-- The swap space of the system. -/
  swap : SwapUse
  /-- The counters of the block devices. -/
  disks : List DiskCounters
  /-- The counters of the network interfaces. -/
  interfaces : List InterfaceCounters
  /-- The network connections. -/
  connections : List Connection
  /-- The memory of the collecting process. -/
  processMemory : ProcessMemory
  /-- The CPU time of the collecting process. -/
  processTimes : ProcessTimes
  /-- The garbage collections of the collecting process. -/
  collections : List Nat
  /-- The name of the runtime, in any case. -/
  runtime : String

namespace FixedSource

/-- The answers of a fixed source. -/
def reading (s : FixedSource) : Reading
  | .cpuTimes => .ok s.cpuTimes
  | .cpuShares => .ok s.cpuShares
  | .memory => .ok s.memory
  | .swap => .ok s.swap
  | .disks => .ok s.disks
  | .interfaces => .ok s.interfaces
  | .connections => .ok s.connections
  | .processMemory => .ok s.processMemory
  | .processTimes => .ok s.processTimes
  | .collections => .ok s.collections

/-- The name of the runtime. -/
def runtimeName (s : FixedSource) : String := Text.lowercase s.runtime

end FixedSource

end HostMetrics
