import HostMetrics.Failure
import HostMetrics.Files.Basic
import HostMetrics.Proc.FormatError
import HostMetrics.Record.Connection
import HostMetrics.Record.CpuTimes
import HostMetrics.Record.Device
import HostMetrics.Record.Memory
import HostMetrics.Record.Process

/-!
# Readings

A source of statistics can be asked for ten quantities. A reading is its
answer to all of these questions at one moment, each answer a record, an
error or an abort. What is measured depends on a reading alone, so the
measurements know nothing of files.
-/

namespace HostMetrics

/-- Why a quantity cannot be told. -/
inductive ReadError where
  /-- A file cannot be read. -/
  | file (cause : FileError)
  /-- A file does not have its format. -/
  | format (cause : Proc.FormatError)
deriving DecidableEq, Repr

/-- The words in which it is reported. -/
def ReadError.message : ReadError → String
  | .file cause => "I/O error: " ++ cause.message
  | .format cause => "parse error: " ++ cause.message

/-- What a source can be asked for. -/
inductive Quantity where
  /-- The times of each CPU, in seconds. -/
  | cpuTimes
  /-- The shares of each CPU's time since the sample before, in percent. -/
  | cpuShares
  /-- The memory of the system. -/
  | memory
  /-- The swap space of the system. -/
  | swap
  /-- The counters of the block devices. -/
  | disks
  /-- The counters of the network interfaces. -/
  | interfaces
  /-- The network connections. -/
  | connections
  /-- The memory of the collecting process. -/
  | processMemory
  /-- The CPU time of the collecting process. -/
  | processTimes
  /-- The garbage collections of the collecting process, per generation. -/
  | collections
deriving DecidableEq, Repr

/-- The kind of answer to a question. -/
abbrev Quantity.Value : Quantity → Type
  | cpuTimes => List CpuTimes
  | cpuShares => List CpuTimes
  | memory => MemoryUse
  | swap => SwapUse
  | disks => List DiskCounters
  | interfaces => List InterfaceCounters
  | connections => List Connection
  | processMemory => ProcessMemory
  | processTimes => ProcessTimes
  | collections => List Nat

/-- The answers of a source at a moment. -/
abbrev Reading := (q : Quantity) → Except (Failure ReadError) q.Value

end HostMetrics
