import HostMetrics.Counter
import HostMetrics.Proc.CpuLine
import HostMetrics.Proc.DiskLine
import HostMetrics.Proc.InterfaceLine
import HostMetrics.Proc.MemoryTable
import HostMetrics.Proc.PageCounts
import HostMetrics.Proc.PagingTable
import HostMetrics.Proc.ProcessLine
import HostMetrics.Proc.SocketLine
import HostMetrics.Reading

/-!
# The kernel as a source

The kernel shows its statistics as files below one directory. Each question
is answered from one or a few of them, and every unit is brought to bytes
and seconds on the way: ticks are hundredths of a second, pages 4096 bytes,
sectors 512 bytes and the numbers of the memory table kibibytes.

The shares of a CPU's time are measured against the sample of the last
successful answer to that question. So a source has a state, the sample,
and only that question changes it. Its answer and the state behind it are
two functions, `KernelSource.cpuShares` and `KernelSource.afterShares`.
-/

namespace HostMetrics

open Proc

/-- The kernel's files and the last sample of its CPU lines. -/
structure KernelSource where
  /-- The files. -/
  files : Files
  /-- The directory of the statistics. -/
  root : String
  /-- The CPU lines that the last shares were told of. -/
  sample : Option (List CpuLine)

namespace KernelSource

/-- The path of a file of the statistics. -/
def path (s : KernelSource) (name : String) : String := s.root ++ "/" ++ name

/-- The text of a file of the statistics. -/
def text (s : KernelSource) (name : String) : Except (Failure ReadError) String :=
  Failure.lift ((s.files.read (s.path name)).mapError .file)

/-- Whether a file of the statistics is there. -/
def has (s : KernelSource) (name : String) : Bool := s.files.present (s.path name)

/-- The result of a reader of one of the formats. -/
def formatted {α : Type} (result : Except FormatError α) : Except (Failure ReadError) α :=
  Failure.lift (result.mapError .format)

/-- The text of a file is read iff the file is. -/
theorem text_eq_ok {s : KernelSource} {name content : String} :
    s.text name = .ok content ↔ s.files.read (s.path name) = .ok content :=
  Failure.lift_eq_ok.trans mapError_eq_ok

/-- Nothing but the file keeps its text from being read. -/
theorem text_eq_error {s : KernelSource} {name : String} {failure : Failure ReadError} :
    s.text name = .error failure
      ↔ ∃ cause, s.files.read (s.path name) = .error cause ∧ failure = .error (.file cause) :=
  Failure.lift_mapError_eq_error

theorem formatted_eq_ok {α : Type} {result : Except FormatError α} {a : α} :
    formatted result = .ok a ↔ result = .ok a :=
  Failure.lift_eq_ok.trans mapError_eq_ok

/-- The CPU lines, that of all CPUs together aside. -/
def cpuLines (s : KernelSource) : Except (Failure ReadError) (List CpuLine) := do
  let content ← s.text "stat"
  let lines ← formatted (CpuLine.parse content)
  return lines.filter fun line => line.cpu.isSome

/-- A number of ticks in seconds. -/
def seconds (ticks : Nat) : Float := Counter.toFloat ticks / 100

/-- The times of each CPU. -/
def cpuTimes (s : KernelSource) : Except (Failure ReadError) (List CpuTimes) := do
  let lines ← s.cpuLines
  return lines.map fun line => ⟨fun state => (line.ticks? state).map seconds⟩

/-- The share of a state that went from `before` to `now` ticks while all
states together went on by `elapsed` ticks, in percent. -/
def share (elapsed now before : Nat) : Float :=
  if elapsed = 0 then 0
  else
    let percent := Counter.toFloat (now - before) / Counter.toFloat elapsed * 100
    if percent < 0 then 0 else if 100 < percent then 100 else percent

/-- The ticks of a CPU in a sample that has none of it are all zero. -/
def ticksBefore (before : Option CpuLine) (state : CpuState) : Nat :=
  (before.bind fun line => line.ticks? state).getD 0

/-- The ticks that a CPU went on by since a sample of it, or since the
start if there is none. -/
def elapsed (before : Option CpuLine) (now : CpuLine) : Except Abort Nat := do
  let total ← now.total
  let earlier ← match before with
    | none => .ok 0
    | some line => line.total
  return total - earlier

/-- The shares of a CPU's time since a sample of it. A state that is not
told now is not told at all. -/
def sharesSince (before : Option CpuLine) (now : CpuLine) : Except Abort CpuTimes := do
  let elapsed ← elapsed before now
  return ⟨fun state => (now.ticks? state).map fun n => share elapsed n (ticksBefore before state)⟩

/-- The line of the same CPU in a sample. -/
def lineBefore? (sample : List CpuLine) (now : CpuLine) : Option CpuLine :=
  sample.find? fun line => line.cpu == now.cpu

/-- The shares of each CPU's time since the last sample. -/
def cpuShares (s : KernelSource) : Except (Failure ReadError) (List CpuTimes) := do
  let lines ← s.cpuLines
  Failure.ofAbort (lines.mapM fun now => sharesSince (lineBefore? (s.sample.getD []) now) now)

/-- The source after it was asked for the shares. -/
def afterShares (s : KernelSource) : KernelSource :=
  match s.cpuShares, s.cpuLines with
  | .ok _, .ok lines => { s with sample := some lines }
  | _, _ => s

/-! ## Memory -/

/-- The memory of the system that a table tells. The cache is counted with
what the kernel can give back of its own structures. Without an estimate
of its own, the memory that new programs can have is all that is free,
buffered or cached, and that sum has to be a counter in any case. -/
def memoryOf (t : MemoryTable) : Except Abort MemoryUse := do
  let cached ← Counter.sum [t.cached, t.reclaimable.getD 0]
  let reserve ← Counter.sum [t.free, t.buffers, cached]
  let bytes := Counter.scaled 1024
  let bytes? := Counter.scaled? 1024
  return {
    total := ← bytes t.total
    used := some (← bytes (t.total - t.free - t.buffers - cached))
    free := some (← bytes t.free)
    available := some (← bytes (t.available.getD reserve))
    buffers := some (← bytes t.buffers)
    cached := some (← bytes cached)
    shared := ← bytes? t.shared
    slab := ← bytes? t.slab
    active := ← bytes? t.active
    inactive := ← bytes? t.inactive }

/-- The memory table. -/
def memoryTable (s : KernelSource) : Except (Failure ReadError) MemoryTable := do
  let content ← s.text "meminfo"
  formatted (MemoryTable.parse content)

/-- The memory of the system. -/
def memory (s : KernelSource) : Except (Failure ReadError) MemoryUse := do
  let table ← s.memoryTable
  Failure.ofAbort (memoryOf table)

/-- The paging table, if there is one. -/
def pagingTable? (s : KernelSource) : Except (Failure ReadError) (Option PagingTable) :=
  if s.has "vmstat" then do
    let content ← s.text "vmstat"
    return some (PagingTable.parse content)
  else .ok none

/-- The swap space that the memory table and the paging table tell. -/
def swapOf (t : MemoryTable) (paging : Option PagingTable) : Except Abort SwapUse := do
  let bytes := Counter.scaled 1024
  return {
    total := ← bytes t.swapTotal
    used := some (← bytes (t.swapTotal - t.swapFree))
    free := some (← bytes t.swapFree)
    swappedIn := ← Counter.scaled? 4096 (paging.map PagingTable.swappedIn)
    swappedOut := ← Counter.scaled? 4096 (paging.map PagingTable.swappedOut) }

/-- The swap space of the system. -/
def swap (s : KernelSource) : Except (Failure ReadError) SwapUse := do
  let table ← s.memoryTable
  let paging ← s.pagingTable?
  Failure.ofAbort (swapOf table paging)

/-! ## Devices -/

/-- The counters that a disk line tells. -/
def diskOf (line : DiskLine) : Except Abort DiskCounters := do
  let bytes := Counter.scaled 512
  return {
    device := line.device
    readBytes := some (← bytes line.readSectors)
    writeBytes := some (← bytes line.writeSectors)
    readCount := some line.reads
    writeCount := some line.writes
    readTime := some line.readTime
    writeTime := some line.writeTime
    readMergedCount := some line.readsMerged
    writeMergedCount := some line.writesMerged
    busyTime := some line.busyTime }

/-- The counters of the block devices. -/
def disks (s : KernelSource) : Except (Failure ReadError) (List DiskCounters) := do
  let content ← s.text "diskstats"
  Failure.ofAbort ((DiskLine.parse content).mapM diskOf)

/-- The counters that an interface line tells. -/
def interfaceOf (line : InterfaceLine) : InterfaceCounters where
  interface := line.interface
  bytesSent := some line.sentBytes
  bytesReceived := some line.receivedBytes
  packetsSent := some line.sentPackets
  packetsReceived := some line.receivedPackets
  errorsIn := some line.receiveErrors
  errorsOut := some line.sendErrors
  dropsIn := some line.receiveDrops
  dropsOut := some line.sendDrops

/-- The counters of the network interfaces. -/
def interfaces (s : KernelSource) : Except (Failure ReadError) (List InterfaceCounters) := do
  let content ← s.text "net/dev"
  return (InterfaceLine.parse content).map interfaceOf

/-! ## Connections -/

/-- A socket table of the kernel. -/
structure SocketTable where
  /-- The name of its file. -/
  name : String
  /-- The address family of its sockets. -/
  family : UInt32
  /-- The kind of its sockets. -/
  kind : UInt32
deriving DecidableEq, Repr

/-- The socket tables, in the order in which they are read. -/
def socketTables : List SocketTable := [
  ⟨"net/tcp", Connection.familyV4, Connection.streamKind⟩,
  ⟨"net/tcp6", Connection.familyV6, Connection.streamKind⟩,
  ⟨"net/udp", Connection.familyV4, Connection.datagramKind⟩,
  ⟨"net/udp6", Connection.familyV6, Connection.datagramKind⟩]

/-- The text of the endpoint on the other side; a socket that is not
connected has none. -/
def remoteText (e : Endpoint) : String :=
  if e.address.isUnspecified && e.port == 0 then "" else String.ofList e.text

/-- The connection that a line of a socket table tells. -/
def connectionOf (table : SocketTable) (line : SocketLine) : Connection where
  descriptor := none
  family := table.family
  kind := table.kind
  localEnd := String.ofList line.localEnd.text
  remoteEnd := remoteText line.remoteEnd
  status :=
    if table.kind = Connection.streamKind then tcpStateName line.state else Connection.noStatus
  process := none

/-- The connections of a socket table; a table that is not there has none. -/
def tableConnections (s : KernelSource) (table : SocketTable) :
    Except (Failure ReadError) (List Connection) :=
  if s.has table.name then do
    let content ← s.text table.name
    let lines ← (SocketLine.parse content).mapError (Failure.map .format)
    return lines.map (connectionOf table)
  else .ok []

/-- The network connections. -/
def connections (s : KernelSource) : Except (Failure ReadError) (List Connection) := do
  let tables ← socketTables.mapM s.tableConnections
  return tables.flatten

/-! ## The collecting process -/

/-- The memory that page counts tell. -/
def processMemoryOf (counts : PageCounts) : Except Abort ProcessMemory := do
  let bytes := Counter.scaled 4096
  return {
    resident := some (← bytes counts.resident)
    size := some (← bytes counts.size)
    shared := some (← bytes counts.shared)
    text := some (← bytes counts.text)
    lib := some (← bytes counts.lib)
    data := some (← bytes counts.data)
    dirty := some (← bytes counts.dirty) }

/-- The memory of the collecting process. -/
def processMemory (s : KernelSource) : Except (Failure ReadError) ProcessMemory := do
  let content ← s.text "self/statm"
  let counts ← formatted (PageCounts.parse content)
  Failure.ofAbort (processMemoryOf counts)

/-- The CPU times that a process line tells. The times of its children can
be below zero there, which counts as zero. -/
def processTimesOf (line : ProcessLine) : ProcessTimes where
  user := some (seconds line.userTicks)
  system := some (seconds line.systemTicks)
  childrenUser := some (seconds line.childUserTicks.toNat)
  childrenSystem := some (seconds line.childSystemTicks.toNat)
  waiting := line.blockDelayTicks.map seconds

/-- The CPU times of the collecting process. -/
def processTimes (s : KernelSource) : Except (Failure ReadError) ProcessTimes := do
  let content ← s.text "self/stat"
  let line ← formatted (ProcessLine.parse content)
  return processTimesOf line

/-! ## All answers -/

/-- The answers of the kernel. The collecting process has no garbage
collections to tell of. -/
def reading (s : KernelSource) : Reading
  | .cpuTimes => s.cpuTimes
  | .cpuShares => s.cpuShares
  | .memory => s.memory
  | .swap => s.swap
  | .disks => s.disks
  | .interfaces => s.interfaces
  | .connections => s.connections
  | .processMemory => s.processMemory
  | .processTimes => s.processTimes
  | .collections => .ok []

/-- The files that the answers are taken from. -/
def fileNames : List String :=
  ["stat", "meminfo", "vmstat", "diskstats", "net/dev"] ++ socketTables.map SocketTable.name
    ++ ["self/statm", "self/stat"]

end KernelSource

end HostMetrics
