import HostMetrics.Daemon.Export
import HostMetrics.Daemon.Note
import HostMetrics.Daemon.Options

/-!
# The daemon

The daemon registers the instruments of its configuration and then passes
over them, each pass giving the lines of its measurements. This module
holds all of it that is no input or output: how it starts, what one pass
gives, and when it stops. The files are given to each pass as they are at
that moment, and so is the text of the time.
-/

namespace HostMetrics.Daemon

/-- The daemon between two passes. -/
structure State where
  /-- The registered instruments. -/
  registry : Registry
  /-- The source that they are measured from. -/
  source : KernelSource
  /-- How many passes there were. -/
  passes : Nat

/-- What is written in the course of something. -/
structure Output where
  /-- The notes, for the log. -/
  notes : List Note
  /-- The lines of measurements. -/
  lines : List (List Char)

/-- The exit code where a configuration cannot be loaded. -/
def loadFailureCode : UInt32 := 1

/-- The exit code of a faulty command line. -/
def usageCode : UInt32 := 2

/-- The exit code of an abort. -/
def abortCode : UInt32 := 101

/-- The level up to which notes are logged. -/
def Options.level (o : Options) : Level :=
  if o.quiet then .error else if o.verbosity = 0 then .info else .debug

/-- Whether a note is logged. -/
def Options.logs (o : Options) (note : Note) : Bool := note.level.rank ≤ o.level.rank

/-- The configuration that the options ask for, if they name one. -/
def chosenConfiguration (o : Options) (files : Files) :
    Except Configuration.LoadError (Option Configuration) :=
  match o.config with
  | none => .ok none
  | some path => (Configuration.load files path).map some

/-- Registers the instruments of a source. -/
def register (o : Options) (config : Configuration) (source : KernelSource) : Registry :=
  Registry.empty.register (Source.kernel source).runtimeName config (.ofList o.labels)

/-- Starts the daemon. -/
def start (o : Options) (files : Files) : Except UInt32 State × Output :=
  let opening : List Note :=
    [.starting, .settings o.intervalSeconds o.procDirectory o.config]
  match chosenConfiguration o files with
  | .error cause =>
    (.error loadFailureCode, ⟨opening ++ [.notLoaded (o.config.getD "") cause], []⟩)
  | .ok override =>
    let source : KernelSource := ⟨files, o.procDirectory, none⟩
    let registry := register o (.resolve override) source
    let loading : List Note :=
      match override with
      | none => []
      | some config => [.loaded config.metrics.length]
    let registering : List Note :=
      registry.instruments.map .registering ++ [.registered registry.instruments.length]
    (.ok ⟨registry, source, 0⟩,
      ⟨opening ++ loading ++ registering ++ [.collecting], []⟩)

/-- The notes of the instruments that failed in a pass. -/
def failureNotes (pass : List Collected) : List Note :=
  pass.filterMap fun c =>
    match c.result with
    | .ok _ => none
    | .error cause => some (.failed c.instrument.name cause)

/-- Makes one pass at the given time. -/
def pass (s : State) (files : Files) (timestamp : String) : Except UInt32 State × Output :=
  let source : KernelSource := { s.source with files }
  let notes := passNotes (.kernel source) s.registry.registrations
  match s.registry.collectAll (.kernel source) with
  | (.error _, _) => (.error abortCode, ⟨notes, []⟩)
  | (.ok collected, behind) =>
    let number := s.passes + 1
    let source :=
      match behind with
      | .kernel source => source
      | .fixed _ => source
    (.ok ⟨s.registry, source, number⟩,
      ⟨notes ++ failureNotes collected
          ++ [.passed number (measurementCount collected) (failedCount collected)],
        passLines timestamp collected⟩)

/-- The notes of stopping. -/
def closing (s : State) : List Note := [.released, .stopping s.passes]

/-- The daemon from its start to its stop after one pass: its exit code and
all that it writes. -/
def runOnce (o : Options) (files : Files) (timestamp : String) : UInt32 × Output :=
  match start o files with
  | (.error code, output) => (code, output)
  | (.ok state, opening) =>
    match pass state files timestamp with
    | (.error code, output) => (code, ⟨opening.notes ++ output.notes, output.lines⟩)
    | (.ok state, output) =>
      (0, ⟨opening.notes ++ output.notes ++ closing state, output.lines⟩)

end HostMetrics.Daemon
