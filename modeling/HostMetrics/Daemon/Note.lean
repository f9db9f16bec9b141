import HostMetrics.Registry

/-!
# Notes

What the daemon and the library have to say to an operator, next to the
measurements. A note is a case of `Note`; its level and its words are
functions on it.

Reading a source leaves notes where the kernel tells less than it could.
They are stated apart from the answers, as functions of the same source.
-/

namespace HostMetrics.Daemon

open Text

/-- The levels of notes, the most urgent first. -/
inductive Level where
  | error | warn | info | debug
deriving DecidableEq, Repr

namespace Level

/-- The name of a level. -/
def name : Level → String
  | error => "ERROR"
  | warn => "WARN"
  | info => "INFO"
  | debug => "DEBUG"

/-- How far a level is from the most urgent one. -/
def rank : Level → Nat
  | error => 0
  | warn => 1
  | info => 2
  | debug => 3

end Level

/-- The name and the version of the daemon. -/
def versionText : String := "hoststatd 0.1.0"

/-- Something worth a line in the log. -/
inductive Note where
  /-- The daemon starts. -/
  | starting
  /-- What it was started with. -/
  | settings (interval : Nat) (procPath : String) (config : Option String)
  /-- A configuration was loaded. -/
  | loaded (metrics : Nat)
  /-- A configuration was not loaded. -/
  | notLoaded (path : String) (cause : Configuration.LoadError)
  /-- An instrument is registered. -/
  | registering (instrument : Instrument)
  /-- All instruments are registered. -/
  | registered (instruments : Nat)
  /-- The first pass is about to begin. -/
  | collecting
  /-- There is no sample to measure shares against. -/
  | noSample
  /-- There is no paging table. -/
  | noPagingTable
  /-- There is no such socket table. -/
  | noSocketTable (name : String)
  /-- Connections were counted in groups. -/
  | grouped (connections groups : Nat)
  /-- An instrument failed. -/
  | failed (name : String) (cause : CollectError)
  /-- A pass ended. -/
  | passed (number measurements failures : Nat)
  /-- The instruments are no longer used. -/
  | released
  /-- The daemon stops. -/
  | stopping (passes : Nat)

namespace Note

/-- The level of a note. -/
def level : Note → Level
  | notLoaded .. => .error
  | failed .. => .warn
  | starting | settings .. | loaded .. | registered .. | collecting | stopping .. => .info
  | registering .. | noSample | noPagingTable | noSocketTable .. | grouped .. | passed ..
  | released => .debug

/-- A number in a note. -/
def number (n : Nat) : String := String.ofList (decimal n)

/-- A character in the words of a note. A control that a terminal would
obey is written as its code point, so that a path cannot give orders to the
operator's terminal. -/
def shownChar (c : Char) : List Char :=
  let n := c.toNat
  if n = 0x07 ∨ n = 0x08 ∨ n = 0x0C ∨ n = 0x1B ∨ n = 0x7F then
    ['\\', 'x', Nat.digitChar (n / 16), Nat.digitChar (n % 16)]
  else if 0x80 ≤ n ∧ n ≤ 0x9F then
    '\\' :: 'u' :: '\x7b' :: (Nat.toDigits 16 n ++ ['\x7d'])
  else [c]

/-- Words that hold a text from outside, harmless to a terminal. -/
def shown (s : String) : String := String.ofList (s.toList.flatMap shownChar)

/-- The words of a note. -/
def text : Note → String
  | starting => versionText ++ " starting"
  | settings interval procPath config =>
    shown ("Config: interval=" ++ number interval ++ "s, proc=" ++ procPath ++ ", config="
      ++ config.getD "built-in")
  | loaded metrics => "Loaded configuration for " ++ number metrics ++ " metrics"
  | notLoaded path cause => shown ("Failed to load " ++ path ++ ": " ++ cause.message)
  | registering i => "registering instrument name=" ++ i.name ++ " kind=" ++ i.kind.title
  | registered instruments =>
    "system metrics instrumented instruments=" ++ number instruments
  | collecting => "Starting collection loop"
  | noSample => "no previous CPU sample, measuring utilization since boot"
  | noPagingTable => "vmstat not available, swap in/out omitted"
  | noSocketTable name => "socket table not available, skipping table=\"" ++ name ++ "\""
  | grouped connections groups =>
    "aggregated connections connections=" ++ number connections ++ " groups=" ++ number groups
  | failed name cause => "collection failed name=" ++ name ++ " error=" ++ cause.message
  | passed n measurements failures =>
    "Tick #" ++ number n ++ ": " ++ number measurements ++ " measurements, "
      ++ number failures ++ " instruments failed"
  | released => "uninstrument requested, nothing to release"
  | stopping passes => "Shutting down after " ++ number passes ++ " ticks"

/-- A note in the log. -/
def entry (note : Note) : String := note.level.name ++ " " ++ note.text ++ "\n"

/-- The line of the log in which a note starts. Words with an end of line in
them go on in further lines. -/
def line (note : Note) : String := firstLine note.entry

end Note

/-! ## Notes of a source -/

/-- The notes of reading socket tables: one for each that is missing, up to
the first that cannot be read. -/
def socketTableNotes (s : KernelSource) : List KernelSource.SocketTable → List Note
  | [] => []
  | table :: rest =>
    if s.has table.name then
      match s.tableConnections table with
      | .ok _ => socketTableNotes s rest
      | .error _ => []
    else .noSocketTable table.name :: socketTableNotes s rest

/-- The notes of asking the kernel for a quantity. -/
def kernelNotes (s : KernelSource) : Quantity → List Note
  | .cpuShares =>
    match s.cpuLines with
    | .ok _ => if (s.sample.getD []).isEmpty then [.noSample] else []
    | .error _ => []
  | .swap =>
    match s.memoryTable with
    | .ok _ => if s.has "vmstat" then [] else [.noPagingTable]
    | .error _ => []
  | .connections => socketTableNotes s KernelSource.socketTables
  | _ => []

/-- The notes of asking a source for a quantity. -/
def sourceNotes : Source → Quantity → List Note
  | .kernel s, q => kernelNotes s q
  | .fixed _, _ => []

/-- The note of counting connections, once all of them are in groups. -/
def groupNotes (source : Source) (base : LabelSet) (fields : List String) : List Note :=
  match source.reading .connections with
  | .ok connections =>
    match Collect.groups LabelSet.digest base fields connections with
    | .ok groups => [.grouped connections.length groups.length]
    | .error _ => []
  | .error _ => []

/-- The notes of measuring a metric. -/
def measureNotes (source : Source) (config : Configuration) (base : LabelSet)
    (metric : Metric) : List Note :=
  match config.fields? metric with
  | none => []
  | some fields =>
    match metric with
    | .cpuUtilization => sourceNotes source .cpuShares
    | .swapUsage | .swapUtilization => sourceNotes source .swap
    | .networkConnections => sourceNotes source .connections ++ groupNotes source base fields
    | _ => []

/-- The notes of a pass over instruments, up to an abort. -/
def passNotes (source : Source) : List Registration → List Note
  | [] => []
  | r :: rest =>
    let metric := r.instrument.metric
    let notes := measureNotes source r.config r.base metric
    match measure source.reading r.config r.base metric with
    | .error (.abort _) => notes
    | _ => notes ++ passNotes (source.afterMeasuring r.config metric) rest

end HostMetrics.Daemon
