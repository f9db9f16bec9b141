import HostMetrics.Collect.Error
import HostMetrics.Configuration
import HostMetrics.Counter
import HostMetrics.Direction
import HostMetrics.Label.Digest
import HostMetrics.Measurement
import HostMetrics.Tally

/-!
# Measuring a metric

Each metric but two is measured in one way: for each record that the source
tells and each configured field, in this order, there is a measurement if
the record has the field. It carries the base labels, overridden by the
labels that tell record and field apart. So a metric comes down to four
things: the records, the fields, the value of a field and its labels.

Of the other two, the count of garbage collections needs no configuration,
and connections are counted in groups instead of being measured one by one.
-/

namespace HostMetrics

open Text

/-- What a measurement of a metric results in. -/
abbrev Measured := Except (Failure CollectError) (List Measurement)

namespace Collect

/-- The answer of a source. -/
def ask (reading : Reading) (q : Quantity) : Except (Failure CollectError) q.Value :=
  (reading q).mapError (Failure.map .reading)

/-- The configured fields of a metric. -/
def fieldsOf (config : Configuration) (metric : Metric) :
    Except (Failure CollectError) (List String) :=
  match config.fields? metric with
  | some fields => .ok fields
  | none => .error (.error (.notConfigured metric))

theorem ask_eq_ok {reading : Reading} {q : Quantity} {answer : q.Value} :
    ask reading q = .ok answer ↔ reading q = .ok answer :=
  mapError_eq_ok

theorem fieldsOf_eq_ok {config : Configuration} {metric : Metric} {fields : List String} :
    fieldsOf config metric = .ok fields ↔ config.fields? metric = some fields := by
  unfold fieldsOf
  cases config.fields? metric <;> simp

/-- One measurement per record and selected field, where the record has it. -/
def expand {ρ σ : Type} (records : List ρ) (selected : List σ)
    (measurement? : ρ → σ → Option Measurement) : List Measurement :=
  records.flatMap fun record => selected.filterMap (measurement? record)

/-- A value, if there is one, with labels in addition to the base labels. -/
def labelled (base : LabelSet) (labels : List Label) (value : Option Float) :
    Option Measurement :=
  value.map fun value => ⟨value, base.extend labels⟩

/-! ## CPUs -/

/-- The labels of a state of the CPU at a place of the list, counted from
one. -/
def cpuLabels (state : String) (place : Nat) : List Label :=
  [("state", .str state), ("cpu", .ofNat (place + 1))]

/-- The measurements of CPU times. -/
def cpus (base : LabelSet) (value : Float → Float) (times : List CpuTimes)
    (fields : List String) : List Measurement :=
  expand times.zipIdx fields fun (times, place) state =>
    labelled base (cpuLabels state place) ((times.field? state).map value)

/-! ## Memory -/

/-- The measurements of one record whose fields are told apart by the label
`key`. -/
def single (base : LabelSet) (key : String) (value? : String → Option Float)
    (fields : List String) : List Measurement :=
  expand [()] fields fun _ field => labelled base [(key, .str field)] (value? field)

/-! ## Disks -/

/-- The measurements of the disks: the field of a record is the configured
direction and `suffix`, and its value counts in units of `divisor`. -/
def diskTraffic (base : LabelSet) (suffix : String) (divisor : Float)
    (disks : List DiskCounters) (fields : List String) : List Measurement :=
  expand disks fields fun disk direction =>
    labelled base [("device", .str disk.device), ("direction", .str direction)]
      ((disk.field? (direction ++ suffix)).map fun n => Counter.toFloat n / divisor)

/-- Measures the disks. -/
def disks (reading : Reading) (config : Configuration) (base : LabelSet) (metric : Metric)
    (suffix : String) (divisor : Float) : Measured := do
  let fields ← fieldsOf config metric
  let disks ← ask reading .disks
  return diskTraffic base suffix divisor disks fields

/-! ## Network interfaces -/

/-- The direction of the given name. -/
def directionOf (metric : Metric) (field : String) : Except CollectError Direction :=
  match Direction.ofName? field with
  | some direction => .ok direction
  | none => .error (.unknownDirection metric field)

/-- The measurements of the interfaces, from the counter for each direction. -/
def interfaceTraffic (base : LabelSet) (counter : Direction → String)
    (interfaces : List InterfaceCounters) (directions : List Direction) : List Measurement :=
  expand interfaces directions fun interface direction =>
    labelled base
      [("device", .str interface.interface), ("direction", .str direction.name)]
      ((interface.field? (counter direction)).map Counter.toFloat)

/-- Measures the interfaces. Every direction is checked before the source
is asked. -/
def interfaces (reading : Reading) (config : Configuration) (base : LabelSet)
    (metric : Metric) (counter : Direction → String) : Measured := do
  let fields ← fieldsOf config metric
  let directions ← Failure.lift (fields.mapM (directionOf metric))
  let interfaces ← ask reading .interfaces
  return interfaceTraffic base counter interfaces directions

/-- The counters of dropped packets. -/
def dropCounter : Direction → String
  | .receive => "dropin"
  | .transmit => "dropout"

/-- The counters of packets. -/
def packetCounter : Direction → String
  | .receive => "packets_recv"
  | .transmit => "packets_sent"

/-- The counters of errors. -/
def errorCounter : Direction → String
  | .receive => "errin"
  | .transmit => "errout"

/-- The counters of bytes. -/
def byteCounter : Direction → String
  | .receive => "bytes_recv"
  | .transmit => "bytes_sent"

/-! ## Connections -/

/-- The name of the protocol of a kind of socket. -/
def protocolOf (kind : UInt32) : Except CollectError String :=
  if kind = Connection.streamKind then .ok "tcp"
  else if kind = Connection.datagramKind then .ok "udp"
  else .error (.unknownProtocol kind)

/-- The label of a connection under a field, if it has a value there. -/
def fieldLabel? (c : Connection) (field : String) : Except CollectError (Option Label) :=
  match c.field? field with
  | none => .error (.unsupportedField .networkConnections field)
  | some value => .ok (value.map fun value => (field, value))

/-- The labels of the group that a connection is counted in. A configured
field comes after protocol and state and replaces them if it has their name. -/
def groupOf (base : LabelSet) (fields : List String) (c : Connection) :
    Except CollectError LabelSet := do
  let protocol ← protocolOf c.kind
  let labels ← fields.mapM (fieldLabel? c)
  return base.extend (("protocol", .str protocol) :: ("state", .str c.status)
    :: labels.filterMap id)

/-- The measurements of counted groups. -/
def counts (groups : List (LabelSet × Nat)) : List Measurement :=
  groups.map fun (labels, n) => ⟨Counter.toFloat n, labels⟩

/-- The groups that connections are counted in, found by a digest of their
labels. -/
def groups (digest : LabelSet → UInt64) (base : LabelSet) (fields : List String)
    (connections : List Connection) : Except CollectError (List (LabelSet × Nat)) := do
  let labels ← connections.mapM (groupOf base fields)
  return (Tally.ofList digest labels).toList

/-- Measures the connections, with the given digest. -/
def connectionsBy (digest : LabelSet → UInt64) (reading : Reading) (config : Configuration)
    (base : LabelSet) : Measured := do
  let fields ← fieldsOf config .networkConnections
  let connections ← ask reading .connections
  let groups ← Failure.lift (groups digest base fields connections)
  return counts groups

/-! ## The collecting process -/

/-- The measurements of garbage collections, one per generation. -/
def collections (base : LabelSet) (numbers : List Nat) : List Measurement :=
  numbers.zipIdx.map fun (n, generation) =>
    ⟨Counter.toFloat n, base.insert "count" (.str (String.ofList (decimal generation)))⟩

end Collect

open Collect

/-! ## All metrics -/

/-- Measures a metric from a reading. -/
def measure (reading : Reading) (config : Configuration) (base : LabelSet)
    (metric : Metric) : Measured :=
  match metric with
  | .cpuTime => do
    let fields ← fieldsOf config metric
    let times ← ask reading .cpuTimes
    return cpus base id times fields
  | .cpuUtilization => do
    let fields ← fieldsOf config metric
    let shares ← ask reading .cpuShares
    return cpus base (· / 100) shares fields
  | .memoryUsage => do
    let fields ← fieldsOf config metric
    let memory ← ask reading .memory
    return single base "state" (fun state => (memory.field? state).map Counter.toFloat) fields
  | .memoryUtilization => do
    let fields ← fieldsOf config metric
    let memory ← ask reading .memory
    return single base "state"
      (fun state => (memory.field? state).map fun n => Counter.ratio n memory.total) fields
  | .swapUsage => do
    let fields ← fieldsOf config metric
    let swap ← ask reading .swap
    return single base "state" (fun state => (swap.field? state).map Counter.toFloat) fields
  | .swapUtilization => do
    let fields ← fieldsOf config metric
    let swap ← ask reading .swap
    return single base "state"
      (fun state => (swap.field? state).map fun n => Counter.ratio n swap.total) fields
  | .diskBytes => disks reading config base metric "_bytes" 1
  | .diskOperations => disks reading config base metric "_count" 1
  | .diskTime => disks reading config base metric "_time" 1000
  | .diskMerged => disks reading config base metric "_merged_count" 1
  | .networkDropped => interfaces reading config base metric dropCounter
  | .networkPackets => interfaces reading config base metric packetCounter
  | .networkErrors => interfaces reading config base metric errorCounter
  | .networkBytes => interfaces reading config base metric byteCounter
  | .networkConnections => connectionsBy LabelSet.digest reading config base
  | .runtimeMemory => do
    let fields ← fieldsOf config metric
    let memory ← ask reading .processMemory
    return single base "type" (fun field => (memory.field? field).map Counter.toFloat) fields
  | .runtimeCpuTime => do
    let fields ← fieldsOf config metric
    let times ← ask reading .processTimes
    return single base "type" times.field? fields
  | .runtimeGcCount => do
    let numbers ← ask reading .collections
    return collections base numbers

end HostMetrics
