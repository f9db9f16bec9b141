import HostMetrics.Label.Basic

/-!
# What is told of a connection

The fields of a connection are labels of the group it is counted in, so
they are label values. A field can be known and yet have no value for a
connection, which is not the same as a field that no connection has.
-/

namespace HostMetrics

/-- One network connection. -/
structure Connection where
  /-- The file descriptor that the connection is open at. -/
  descriptor : Option Int64
  /-- The code of the address family. -/
  family : UInt32
  /-- The code of the kind of socket, which is also that of its protocol. -/
  kind : UInt32
  /-- The endpoint on this side. -/
  localEnd : String
  /-- The endpoint on the other side, empty if there is none. -/
  remoteEnd : String
  /-- The state of the connection. -/
  status : String
  /-- The process that holds the connection. -/
  process : Option UInt32
deriving DecidableEq, Repr

namespace Connection

/-- The code of sockets for streams. -/
def streamKind : UInt32 := 1

/-- The code of sockets for datagrams. -/
def datagramKind : UInt32 := 2

/-- The code of Internet addresses of version 4. -/
def familyV4 : UInt32 := 2

/-- The code of Internet addresses of version 6. -/
def familyV6 : UInt32 := 10

/-- The state of a socket that has no states. -/
def noStatus : String := "NONE"

/-- The value of the field with the given name: nothing if connections have
no such field, and no value if this one has none there. -/
def field? (c : Connection) : String → Option (Option LabelValue)
  | "fd" => some (c.descriptor.map .int)
  | "family" => some (some (.ofNat c.family.toNat))
  | "type" => some (some (.ofNat c.kind.toNat))
  | "laddr" => some (some (.str c.localEnd))
  | "raddr" => some (some (.str c.remoteEnd))
  | "status" => some (some (.str c.status))
  | "pid" => some (c.process.map fun n => .ofNat n.toNat)
  | _ => none

end Connection

end HostMetrics
