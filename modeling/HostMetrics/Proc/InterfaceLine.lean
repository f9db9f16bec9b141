import HostMetrics.Proc.DiskLine

/-!
# The interface lines

An interface line is the interface's name, a colon and sixteen counters,
eight for what was received and eight for what was sent. Lines that hold a
bar are headings. Other lines that are not of this shape are passed over,
and a counter that is no number counts as zero.
-/

namespace HostMetrics.Proc

open Text

/-- The counters of one network interface. -/
structure InterfaceLine where
  /-- The name of the interface. -/
  interface : String
  /-- Bytes received. -/
  receivedBytes : Nat
  /-- Packets received. -/
  receivedPackets : Nat
  /-- Errors while receiving. -/
  receiveErrors : Nat
  /-- Received packets that were dropped. -/
  receiveDrops : Nat
  /-- Bytes sent. -/
  sentBytes : Nat
  /-- Packets sent. -/
  sentPackets : Nat
  /-- Errors while sending. -/
  sendErrors : Nat
  /-- Packets to be sent that were dropped. -/
  sendDrops : Nat
deriving DecidableEq, Repr

namespace InterfaceLine

/-- The counters of a line, if it is an interface line. -/
def ofLine? (line : List Char) : Option InterfaceLine :=
  if '|' ∈ line then none
  else
    (cutAt ':' line).bind fun (name, counters) =>
      let cs := columns counters
      if cs.length < 16 then none
      else some {
        interface := String.ofList (trim name)
        receivedBytes := counterAt cs 0
        receivedPackets := counterAt cs 1
        receiveErrors := counterAt cs 2
        receiveDrops := counterAt cs 3
        sentBytes := counterAt cs 8
        sentPackets := counterAt cs 9
        sendErrors := counterAt cs 10
        sendDrops := counterAt cs 11 }

/-- Reads the interface lines, in their order. -/
def parse (text : String) : List InterfaceLine :=
  (lines text.toList).filterMap ofLine?

end InterfaceLine

end HostMetrics.Proc
