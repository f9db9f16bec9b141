import HostMetrics.Endpoint
import HostMetrics.Failure
import HostMetrics.Text.Blank
import HostMetrics.Proc.FormatError

/-!
# The socket lines

A socket table has one heading and then a line per socket, with the two
endpoints and the state in its second to fourth column, all of them in
hexadecimal. The kernel prints an address word by word, each word as the
number that its four bytes are on a little-endian machine, so the last
byte of a word comes first.

A line with too few columns is passed over, and the first broken column of
any other line decides the outcome. One outcome is no error but an abort:
an address of the length of version 6 is cut every eight bytes, and a cut
that falls inside a character has no result.
-/

namespace HostMetrics.Proc

open Text

/-- The state of a TCP socket in words. -/
def tcpStateName (state : UInt8) : String :=
  match state.toNat with
  | 1 => "ESTABLISHED"
  | 2 => "SYN_SENT"
  | 3 => "SYN_RECV"
  | 4 => "FIN_WAIT1"
  | 5 => "FIN_WAIT2"
  | 6 => "TIME_WAIT"
  | 7 => "CLOSE"
  | 8 => "CLOSE_WAIT"
  | 9 => "LAST_ACK"
  | 10 => "LISTEN"
  | 11 => "CLOSING"
  | 12 => "NEW_SYN_RECV"
  | _ => "UNKNOWN"

/-- One socket of a table. -/
structure SocketLine where
  /-- The endpoint on this side. -/
  localEnd : Endpoint
  /-- The endpoint on the other side. -/
  remoteEnd : Endpoint
  /-- The kernel's number for the state. -/
  state : UInt8
deriving DecidableEq, Repr

namespace SocketLine

/-- The word of an address whose bytes are those of `n`, least significant
byte first. -/
def wordOfNumber (n : Nat) : AddressWord :=
  ⟨.ofNat n, .ofNat (n / 256), .ofNat (n / 65536), .ofNat (n / 16777216)⟩

/-- The next `count` words of an address, eight bytes of text each. The
field they are part of is named in the error. -/
def addressWords (field : List Char) :
    Nat → List Char → Except (Failure FormatError) (List AddressWord)
  | 0, _ => .ok []
  | count + 1, s =>
    match cutBytes 8 s with
    | none => .error (.abort .splitCharacter)
    | some (front, back) =>
      match unsigned? 16 limit32 front with
      | none => .error (.error (.badSocketWord (String.ofList field)))
      | some n => (addressWords field count back).map (wordOfNumber n :: ·)

/-- The address in the text before the colon of a field. -/
def address (field s : List Char) : Except (Failure FormatError) IpAddress :=
  if byteLength s = 8 then
    match unsigned? 16 limit32 s with
    | none => .error (.error (.badSocketWord (String.ofList field)))
    | some n => .ok (.v4 (wordOfNumber n))
  else if byteLength s = 32 then
    match addressWords field 4 s with
    | .error failure => .error failure
    | .ok [w₀, w₁, w₂, w₃] => .ok (.v6 w₀ w₁ w₂ w₃)
    | .ok _ => .error (.error (.badSocketLength (String.ofList field)))
  else .error (.error (.badSocketLength (String.ofList field)))

/-- The endpoint in a field. Its port is looked at before its address. -/
def endpoint (field : List Char) : Except (Failure FormatError) Endpoint :=
  match cutAt ':' field with
  | none => .error (.error (.noSocketPort (String.ofList field)))
  | some (before, after) =>
    match unsigned? 16 limit16 after with
    | none => .error (.error (.badSocketPort (String.ofList field)))
    | some port => (address field before).map fun ip => ⟨ip, .ofNat port⟩

/-- The socket in the columns of a line: state, local endpoint and remote
endpoint are looked at in this order. -/
def ofFields (localField remoteField state : List Char) :
    Except (Failure FormatError) SocketLine :=
  match unsigned? 16 256 state with
  | none => .error (.error (.badSocketState (String.ofList state)))
  | some n => do
    let localEnd ← endpoint localField
    let remoteEnd ← endpoint remoteField
    return ⟨localEnd, remoteEnd, .ofNat n⟩

/-- The three columns of a line that describe a socket, if it has enough
columns for one. -/
def fields? (line : List Char) : Option (List Char × List Char × List Char) :=
  match columns line with
  | _ :: localField :: remoteField :: state :: rest =>
    if rest.length < 6 then none else some (localField, remoteField, state)
  | _ => none

/-- Reads a socket table, in the order of its lines. -/
def parse (text : String) : Except (Failure FormatError) (List SocketLine) :=
  (((lines text.toList).drop 1).filterMap fields?).mapM fun (localField, remoteField, state) =>
    ofFields localField remoteField state

end SocketLine

end HostMetrics.Proc
