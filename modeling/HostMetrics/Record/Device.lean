/-!
# What is told of disks and network interfaces

The counters of a device count from its start. Times are milliseconds.
-/

namespace HostMetrics

/-- The counters of a block device. -/
structure DiskCounters where
  /-- The name of the device. -/
  device : String
  /-- Bytes read. -/
  readBytes : Option Nat
  /-- Bytes written. -/
  writeBytes : Option Nat
  /-- Completed reads. -/
  readCount : Option Nat
  /-- Completed writes. -/
  writeCount : Option Nat
  /-- The time spent reading. -/
  readTime : Option Nat
  /-- The time spent writing. -/
  writeTime : Option Nat
  /-- Reads that were merged with others. -/
  readMergedCount : Option Nat
  /-- Writes that were merged with others. -/
  writeMergedCount : Option Nat
  /-- The time during which the device was busy. -/
  busyTime : Option Nat
deriving DecidableEq, Repr

/-- The value of the field with the given name. -/
def DiskCounters.field? (r : DiskCounters) : String → Option Nat
  | "read_bytes" => r.readBytes
  | "write_bytes" => r.writeBytes
  | "read_count" => r.readCount
  | "write_count" => r.writeCount
  | "read_time" => r.readTime
  | "write_time" => r.writeTime
  | "read_merged_count" => r.readMergedCount
  | "write_merged_count" => r.writeMergedCount
  | "busy_time" => r.busyTime
  | _ => none

/-- The counters of a network interface. -/
structure InterfaceCounters where
  /-- The name of the interface. -/
  interface : String
  /-- Bytes sent. -/
  bytesSent : Option Nat
  /-- Bytes received. -/
  bytesReceived : Option Nat
  /-- Packets sent. -/
  packetsSent : Option Nat
  /-- Packets received. -/
  packetsReceived : Option Nat
  /-- Errors while receiving. -/
  errorsIn : Option Nat
  /-- Errors while sending. -/
  errorsOut : Option Nat
  /-- Received packets that were dropped. -/
  dropsIn : Option Nat
  /-- Packets to be sent that were dropped. -/
  dropsOut : Option Nat
deriving DecidableEq, Repr

/-- The value of the field with the given name. -/
def InterfaceCounters.field? (r : InterfaceCounters) : String → Option Nat
  | "bytes_sent" => r.bytesSent
  | "bytes_recv" => r.bytesReceived
  | "packets_sent" => r.packetsSent
  | "packets_recv" => r.packetsReceived
  | "errin" => r.errorsIn
  | "errout" => r.errorsOut
  | "dropin" => r.dropsIn
  | "dropout" => r.dropsOut
  | _ => none

end HostMetrics
