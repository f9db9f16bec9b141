import HostMetrics.Files.Table

/-!
# Example systems

Two tables of files that a kernel could show. The typical system has four
CPUs, two disks, two interfaces and a handful of sockets. The system of an
old kernel tells less: only the four oldest states of its two CPUs, no
estimate of the available memory, no paging table and no sockets of
version 6.
-/

namespace HostMetrics.FileTable

/-- Lines as a text, each of them ended by a line feed. -/
def joined (lines : List String) : String :=
  String.join (lines.map fun line => line ++ "\n")

/-! ## The typical system -/

/-- The memory table of the typical system. -/
def typicalMemory : String := joined [
  "MemTotal:       16384000 kB",
  "MemFree:         8192000 kB",
  "MemAvailable:   12000000 kB",
  "Buffers:          512000 kB",
  "Cached:          2048000 kB",
  "SwapCached:            0 kB",
  "Active:          4096000 kB",
  "Inactive:        2048000 kB",
  "SwapTotal:       4096000 kB",
  "SwapFree:        3072000 kB",
  "Dirty:              1024 kB",
  "Writeback:             0 kB",
  "Shmem:            128000 kB",
  "Slab:             512000 kB",
  "SReclaimable:     256000 kB"]

/-- The CPU statistics of the typical system. -/
def typicalCpu : String := joined [
  "cpu  10000 500 3000 80000 1000 200 100 0 0 0",
  "cpu0 2500 125 750 20000 250 50 25 0 0 0",
  "cpu1 2500 125 750 20000 250 50 25 0 0 0",
  "cpu2 2500 125 750 20000 250 50 25 0 0 0",
  "cpu3 2500 125 750 20000 250 50 25 0 0 0",
  "intr 1000000 50 0 0 0 0 0 0 0 1 0 0 0 100 0 0 1000",
  "ctxt 500000",
  "btime 1700000000",
  "processes 10000",
  "procs_running 2",
  "procs_blocked 0"]

/-- The paging table of the typical system. -/
def typicalPaging : String := joined [
  "pgpgin 123456",
  "pgpgout 654321",
  "pswpin 100",
  "pswpout 200",
  "pgfault 999999",
  "pgmajfault 1234"]

/-- The disk lines of the typical system. -/
def typicalDisks : String := joined [
  "   8       0 sda 12345 100 987654 5000 6789 50 456789 3000 0 4000 8000 0 0 0 0",
  " 259       0 nvme0n1 50000 200 2000000 10000 30000 150 1500000 8000 5 15000 18000 0 0 0 0"]

/-- The interface lines of the typical system. -/
def typicalInterfaces : String := joined [
  "Inter-|   Receive                                                |  Transmit",
  " face |bytes    packets errs drop fifo frame compressed multicast|bytes    packets errs drop fifo colls carrier compressed",
  "    lo: 12345678     9876    0    0    0     0          0         0 12345678     9876    0    0    0     0       0          0",
  "  eth0: 987654321   654321    5   10    0     0          0       100 123456789   456789    2    7    0     0       0          0"]

/-- The TCP sockets of version 4 of the typical system. -/
def typicalTcp : String := joined [
  "  sl  local_address rem_address   st tx_queue rx_queue tr tm->when retrnsmt   uid  timeout inode",
  "   0: 0100007F:1538 00000000:0000 0A 00000000:00000000 00:00000000 00000000   113        0 23456 1 0000000000000000 100 0 0 10 0",
  "   1: 0100007F:1538 0100007F:D2F0 01 00000000:00000000 00:00000000 00000000   113        0 23457 1 0000000000000000 20 4 30 10 -1",
  "   2: 0100007F:D2F0 0100007F:1538 01 00000000:00000000 00:00000000 00000000  1000        0 23458 1 0000000000000000 20 4 30 10 -1"]

/-- The TCP sockets of version 6 of the typical system. -/
def typicalTcp6 : String := joined [
  "  sl  local_address                         remote_address                        st tx_queue rx_queue tr tm->when retrnsmt   uid  timeout inode",
  "   0: 00000000000000000000000000000000:0016 00000000000000000000000000000000:0000 0A 00000000:00000000 00:00000000 00000000     0        0 17890 1 0000000000000000 100 0 0 10 0"]

/-- The UDP sockets of version 4 of the typical system. -/
def typicalUdp : String := joined [
  "   sl  local_address rem_address   st tx_queue rx_queue tr tm->when retrnsmt   uid  timeout inode ref pointer drops",
  "  100: 00000000:0044 00000000:0000 07 00000000:00000000 00:00000000 00000000     0        0 15000 2 0000000000000000 0"]

/-- The UDP sockets of version 6 of the typical system. -/
def typicalUdp6 : String := joined [
  "   sl  local_address                         remote_address                        st tx_queue rx_queue tr tm->when retrnsmt   uid  timeout inode ref pointer drops"]

/-- The process line of the typical system. -/
def typicalProcess : String := joined [
  "4242 (hoststatd) S 1 4242 4242 0 -1 4194304 5000 0 0 0 150 75 20 10 20 0 4 0 100000 25600000 2000 18446744073709551615 0 0 0 0 0 0 0 0 0 0 0 0 17 2 0 0 12 0 0 0 0 0 0 0 0 0 0"]

/-- The page counts of the process of the typical system. -/
def typicalPages : String := joined [
  "6250 2000 500 200 0 1500 0"]

/-- The paths of the typical system and what is there. -/
def typicalFiles : List (String × String) := [
  ("/proc/meminfo", typicalMemory),
  ("/proc/stat", typicalCpu),
  ("/proc/vmstat", typicalPaging),
  ("/proc/diskstats", typicalDisks),
  ("/proc/net/dev", typicalInterfaces),
  ("/proc/net/tcp", typicalTcp),
  ("/proc/net/tcp6", typicalTcp6),
  ("/proc/net/udp", typicalUdp),
  ("/proc/net/udp6", typicalUdp6),
  ("/proc/self/stat", typicalProcess),
  ("/proc/self/statm", typicalPages)]

/-- The files of the typical system. -/
def typical : FileTable := empty.writeAll typicalFiles

/-! ## The system of an old kernel -/

/-- The CPU statistics of an old kernel. -/
def legacyCpu : String := joined [
  "cpu  10000 500 3000 80000",
  "cpu0 5000 250 1500 40000",
  "cpu1 5000 250 1500 40000",
  "btime 1700000000"]

/-- The memory table of an old kernel. -/
def legacyMemory : String := joined [
  "MemTotal:        2048000 kB",
  "MemFree:         1024000 kB",
  "Buffers:          128000 kB",
  "Cached:           256000 kB",
  "SwapTotal:             0 kB",
  "SwapFree:              0 kB"]

/-- The files of an old kernel. -/
def legacy : FileTable :=
  let changed := typical.writeAll [
    ("/proc/stat", legacyCpu),
    ("/proc/meminfo", legacyMemory)]
  ["/proc/vmstat", "/proc/net/tcp6", "/proc/net/udp6"].foldl remove changed

end HostMetrics.FileTable
