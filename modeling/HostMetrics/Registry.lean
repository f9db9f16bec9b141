import HostMetrics.Collect.Basic
import HostMetrics.Instrument
import HostMetrics.Source.Basic

/-!
# Registered instruments

A registry holds instruments in the order of their registration, each with
the configuration and the base labels that were in force then; what is
configured later does not change it. A pass over the registry measures
every instrument once, in order.

An instrument that fails does not stop the pass, an abort does. Only the
measurement of CPU utilization changes the source, so within one pass a
second instrument of that metric is measured against the sample of the
first.
-/

namespace HostMetrics

/-- The source after a metric was measured. Utilization asks for the shares
of CPU time once it is known to be configured. -/
def Source.afterMeasuring (s : Source) (config : Configuration) (metric : Metric) : Source :=
  if metric = .cpuUtilization ∧ config.contains metric then s.after .cpuShares else s

/-- The metrics that get an instrument. The one of merged disk operations
is left out unless it is configured. -/
def registeredMetrics (config : Configuration) : List Metric :=
  Metric.all.filter fun metric => metric ≠ .diskMerged || config.contains metric

/-- The instruments of a process with the given runtime. -/
def instrumentsFor (runtime : String) (config : Configuration) : List Instrument :=
  (registeredMetrics config).map (Instrument.ofMetric (Text.lowercase runtime))

/-- A registered instrument. -/
structure Registration where
  /-- The instrument. -/
  instrument : Instrument
  /-- The configuration it was registered with. -/
  config : Configuration
  /-- The base labels it was registered with. -/
  base : LabelSet

/-- What one instrument contributes to a pass. -/
structure Collected where
  /-- The instrument. -/
  instrument : Instrument
  /-- Its measurements, or why there are none. -/
  result : Except CollectError (List Measurement)

/-- The registered instruments, in the order of their registration. -/
structure Registry where
  /-- The instruments. -/
  registrations : List Registration

namespace Registry

/-- The registry without instruments. -/
def empty : Registry := ⟨[]⟩

/-- The registry with all instruments of a configuration added. -/
def register (r : Registry) (runtime : String) (config : Configuration) (base : LabelSet) :
    Registry :=
  ⟨r.registrations ++ (instrumentsFor runtime config).map fun i => ⟨i, config, base⟩⟩

/-- The instruments of a registry. -/
def instruments (r : Registry) : List Instrument := r.registrations.map (·.instrument)

/-- Measures instruments one after the other. Next to the results stands
the source behind the pass, also if the pass was aborted. -/
def collectFrom (source : Source) : List Registration → Except Abort (List Collected) × Source
  | [] => (.ok [], source)
  | r :: rest =>
    let metric := r.instrument.metric
    let behind := source.afterMeasuring r.config metric
    let proceed (result : Except CollectError (List Measurement)) :=
      let (collected, last) := collectFrom behind rest
      (collected.map (⟨r.instrument, result⟩ :: ·), last)
    match measure source.reading r.config r.base metric with
    | .ok measurements => proceed (.ok measurements)
    | .error (.error cause) => proceed (.error cause)
    | .error (.abort cause) => (.error cause, behind)

/-- Behind an instrument that is not aborted, the others are measured. -/
theorem collectFrom_cons_of_measured {source : Source} {r : Registration}
    {rest : List Registration} {result : Except CollectError (List Measurement)}
    (h : measure source.reading r.config r.base r.instrument.metric = Failure.lift result) :
    collectFrom source (r :: rest)
      = ((collectFrom (source.afterMeasuring r.config r.instrument.metric) rest).1.map
            (⟨r.instrument, result⟩ :: ·),
          (collectFrom (source.afterMeasuring r.config r.instrument.metric) rest).2) := by
  rw [collectFrom, h]
  cases result <;> rfl

/-- Measures every instrument once. -/
def collectAll (r : Registry) (source : Source) : Except Abort (List Collected) × Source :=
  collectFrom source r.registrations

end Registry

end HostMetrics
