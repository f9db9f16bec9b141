import HostMetrics.Proofs.MeasureFailures
import HostMetrics.Proofs.MetricTable

/-!
# Passes over a registry

The instruments of a registry share one source, so a pass is a run of that
source: each instrument is measured on what the ones before it left. Of all
that they do only one thing matters. A configured instrument of utilization
asks for the shares of CPU time, and what is behind the first such question
is behind all of them, since the files stay as they are
(`KernelSource.afterShares_afterShares`). So there are only two sources in a
pass, and the instruments before an instrument say which of them it is
measured on (`KernelSource.behind`).

The two differ in the sample alone. An instrument of any other metric gives
the same on both, which is what it gives alone, and no failure of another
instrument shows in it. An instrument of utilization is measured against the
sample of before the pass until one of them is answered. From then on the
sample is what the file says now. So each line is held against the first one
of its CPU, and where it is that line itself, the CPU went on by nothing and
zero is measured of each configured state that the line tells
(`KernelSource.LooksAgain`).

Whether a pass is aborted is a matter of each instrument alone as well:
what can abort the later instruments of utilization has aborted the first
(`Registration.measured_behind_eq_abort`).
-/

namespace HostMetrics

open Proc Collect

/-! ## Filling a registry -/

/-- **A step of a session**, in which instruments are registered with what
is in force at that time. -/
inductive SessionStep where
  /-- A configuration comes into force, or the built-in one. -/
  | configure (override : Option Configuration)
  /-- Base labels come into force. -/
  | label (base : LabelSet)
  /-- The instruments of the configuration in force are registered. -/
  | instrument

/-- A session between two steps. -/
structure Session where
  /-- The configuration in force. -/
  config : Configuration
  /-- The base labels in force. -/
  base : LabelSet
  /-- The registered instruments. -/
  registry : Registry

namespace Session

/-- The session behind a step. -/
def next (source : Source) (session : Session) : SessionStep → Session
  | .configure override => { session with config := .resolve override }
  | .label base => { session with base }
  | .instrument =>
    { session with
      registry := session.registry.register source.runtimeName session.config session.base }

/-- The session behind a number of steps. -/
def run (source : Source) (session : Session) (steps : List SessionStep) : Session :=
  steps.foldl (next source) session

/-- **The metrics that an instrumentor registers**, in the order of the
catalog. That of merged disk operations is there only if it is configured. -/
def offered (config : Configuration) : List Metric :=
  let merged : List Metric :=
    if (config.selector? .diskMerged).isSome then [.diskMerged] else []
  .cpuTime :: .cpuUtilization :: .memoryUsage :: .memoryUtilization :: .swapUsage
    :: .swapUtilization :: .diskBytes :: .diskOperations :: .diskTime :: merged.append
      [.networkDropped, .networkPackets, .networkErrors, .networkBytes, .networkConnections,
        .runtimeMemory, .runtimeCpuTime, .runtimeGcCount]

/-- **What a step registers**: each metric with the configuration and the
labels in force. -/
def registers (session : Session) : SessionStep → List (Metric × Configuration × LabelSet)
  | .instrument => (offered session.config).map fun metric => (metric, session.config, session.base)
  | _ => []

/-- What is registered in the course of a number of steps. -/
def registered (source : Source) : Session → List SessionStep →
    List (Metric × Configuration × LabelSet)
  | _, [] => []
  | session, step :: steps =>
    session.registers step ++ registered source (session.next source step) steps

/-- **Registrations that capture** metrics, each with a configuration and labels,
under the instruments of these metrics. -/
def Captures (added : List Registration)
    (metrics : List (Metric × Configuration × LabelSet)) : Prop :=
  added.map (fun r => (r.instrument.metric, r.config, r.base)) = metrics
    ∧ ∀ r ∈ added, r.instrument = .ofMetric "rust" r.instrument.metric

theorem Captures.append {added added' : List Registration}
    {metrics metrics' : List (Metric × Configuration × LabelSet)} (h : Captures added metrics)
    (h' : Captures added' metrics') : Captures (added ++ added') (metrics ++ metrics') :=
  ⟨by rw [List.map_append, h.1, h'.1], List.forall_mem_append.mpr ⟨h.2, h'.2⟩⟩

theorem registeredMetrics_eq (config : Configuration) :
    registeredMetrics config = offered config := by
  unfold registeredMetrics offered
  show Metric.all.filter (fun metric => metric ≠ .diskMerged || config.contains metric) = _
  cases h : (config.selector? .diskMerged).isSome with
  | false => simp [Metric.all, Configuration.contains, h]
  | true => simp [Metric.all, Configuration.contains, h]

variable {s : KernelSource}

/-- A step leaves everything registered before as it is. -/
theorem registrations_next (session : Session) (step : SessionStep) :
    ∃ added, (session.next (.kernel s) step).registry.registrations
        = session.registry.registrations ++ added
      ∧ Captures added (session.registers step) := by
  cases step with
  | configure override => exact ⟨[], (List.append_nil _).symm, rfl, by simp⟩
  | label base => exact ⟨[], (List.append_nil _).symm, rfl, by simp⟩
  | instrument =>
    have hname : Text.lowercase "rust" = "rust" := by decide
    have hadded : (instrumentsFor "rust" session.config).map
          (fun i => (⟨i, session.config, session.base⟩ : Registration))
        = (offered session.config).map fun metric =>
            ⟨.ofMetric "rust" metric, session.config, session.base⟩ := by
      rw [instrumentsFor, hname, registeredMetrics_eq, List.map_map]
      rfl
    refine ⟨_, congrArg (session.registry.registrations ++ ·) hadded, ?_, ?_⟩
    · rw [registers, List.map_map]
      exact List.map_congr_left fun metric _ =>
        congrArg (·, session.config, session.base) (Instrument.metric_ofMetric "rust" metric)
    · refine List.forall_mem_map.mpr fun metric _ => ?_
      show Instrument.ofMetric "rust" metric
        = .ofMetric "rust" (Instrument.ofMetric "rust" metric).metric
      rw [Instrument.metric_ofMetric]

/-- **What was registered once stays registered**, and with what was in
force then. -/
theorem registrations_run (session : Session) (steps : List SessionStep) :
    ∃ added, (session.run (.kernel s) steps).registry.registrations
        = session.registry.registrations ++ added
      ∧ Captures added (session.registered (.kernel s) steps) := by
  induction steps generalizing session with
  | nil => exact ⟨[], (List.append_nil _).symm, rfl, by simp⟩
  | cons step steps ih =>
    obtain ⟨first, hfirst, hfirst'⟩ := registrations_next (s := s) session step
    obtain ⟨others, hothers, hothers'⟩ := ih (session.next (.kernel s) step)
    refine ⟨first ++ others, ?_, hfirst'.append hothers'⟩
    rw [← List.append_assoc, ← hfirst]
    exact hothers

end Session

/-! ## What a measurement depends on -/

/-- A measurement depends on one answer of the source. -/
theorem measure_congr {reading other : Reading} {config : Configuration} {base : LabelSet}
    {metric : Metric} (h : reading metric.quantity = other metric.quantity) :
    measure reading config base metric = measure other config base metric := by
  have hask : ask reading metric.quantity = ask other metric.quantity := by
    unfold ask
    rw [h]
  -- each metric asks exactly once, for the quantity it is measured from
  cases metric <;>
    simp only [measure, disks, interfaces, connectionsBy] <;>
    exact hask ▸ rfl

/-! ## The two sources of a pass -/

namespace Registration

/-- The metric of a registered instrument. -/
def metric (r : Registration) : Metric := r.instrument.metric

/-- **What an instrument gives alone.** -/
def measured (r : Registration) (s : KernelSource) : Measured :=
  measure s.reading r.config r.base r.metric

/-- Whether an instrument asks for the shares of CPU time. -/
def asksShares (r : Registration) : Bool :=
  r.metric = .cpuUtilization ∧ r.config.contains r.metric

end Registration

namespace Proc.CpuLine

/-- The states that a line tells, under their names. -/
def told (line : CpuLine) : List (String × Option Nat) :=
  [("user", line.ticks[0]?), ("nice", line.ticks[1]?), ("system", line.ticks[2]?),
    ("idle", line.ticks[3]?), ("iowait", line.ticks[4]?), ("irq", line.ticks[5]?),
    ("softirq", line.ticks[6]?), ("steal", line.ticks[7]?), ("guest", line.ticks[8]?),
    ("guest_nice", line.ticks[9]?)]

end Proc.CpuLine

namespace KernelSource

variable {s : KernelSource} {lines : List CpuLine} {shares : List CpuTimes}
  {r : Registration} {rs : List Registration}

/-- **The source behind a number of instruments.** -/
def behind (s : KernelSource) (rs : List Registration) : KernelSource :=
  if rs.any Registration.asksShares then s.afterShares else s

/-- An answer is given from lines that can all be summed up, whatever the
sample is. -/
theorem summable_of_cpuShares (hshares : s.cpuShares = .ok shares)
    (hlines : s.cpuLines = .ok lines) : ∀ line ∈ lines, line.Summable := by
  unfold cpuShares at hshares
  rw [hlines, ok_bind] at hshares
  intro line hline
  obtain ⟨share, hshare⟩ := exists_ok_of_mapM_eq_ok (mapError_eq_ok.mp hshares) line hline
  obtain ⟨elapsed, helapsed, -⟩ := bind_eq_ok.mp hshare
  obtain ⟨total, htotal, -⟩ := bind_eq_ok.mp helapsed
  rw [CpuLine.total_eq] at htotal
  by_contra hlarge
  rw [if_neg hlarge] at htotal
  cases htotal

/-- The sample of an answer is sound. -/
theorem sound_of_cpuShares (hshares : s.cpuShares = .ok shares) (hlines : s.cpuLines = .ok lines) :
    Sound { s with sample := some lines } := by
  obtain ⟨content, all, -, -, rfl⟩ := cpuLines_eq_ok.mp hlines
  intro line hline
  exact ⟨(List.mem_filter.mp hline).2, summable_of_cpuShares hshares hlines line hline⟩

/-- **Behind an answer, the next one is against the same lines.** -/
theorem cpuShares_afterShares (hshares : s.cpuShares = .ok shares)
    (hlines : s.cpuLines = .ok lines) :
    s.afterShares.cpuShares = .ok (lines.map fun now =>
      sharesBetween ((lines.find? fun line => line.cpu == now.cpu).getD .zero) now) := by
  rw [afterShares_of_answer hshares hlines]
  exact ((sound_of_cpuShares hshares hlines).cpuShares_eq hlines).trans
    (if_pos (summable_of_cpuShares hshares hlines))

/-- Asking again changes nothing. -/
theorem afterShares_afterShares : s.afterShares.afterShares = s.afterShares := by
  by_cases hanswer : ∃ shares, s.cpuShares = .ok shares
  · obtain ⟨shares, hshares⟩ := hanswer
    obtain ⟨lines, hlines, -⟩ := bind_eq_ok.mp hshares
    have hagain := cpuShares_afterShares hshares hlines
    rw [afterShares_of_answer hshares hlines] at hagain ⊢
    exact afterShares_of_answer hagain hlines
  · rw [afterShares_of_no_answer hanswer, afterShares_of_no_answer hanswer]

theorem behind_behind : (s.behind [r]).behind rs = s.behind (r :: rs) := by
  unfold behind
  rw [List.any_cons, List.any_cons, List.any_nil, Bool.or_false]
  cases r.asksShares with
  | false => rfl
  | true =>
    show (if _ then s.afterShares.afterShares else s.afterShares) = s.afterShares
    rw [afterShares_afterShares, ite_self]

/-- Behind a measurement is the source that its instrument leaves. -/
theorem afterMeasuring_kernel :
    (Source.kernel s).afterMeasuring r.config r.metric = .kernel (s.behind [r]) := by
  unfold Source.afterMeasuring behind
  rw [List.any_cons, List.any_nil, Bool.or_false, Registration.asksShares]
  by_cases h : r.metric = .cpuUtilization ∧ r.config.contains r.metric
  · rw [if_pos h, if_pos (decide_eq_true h)]
    rfl
  · rw [if_neg h, if_neg fun hasks => h (of_decide_eq_true hasks)]

/-- All answers but one are the same behind any instruments. -/
theorem reading_behind {q : Quantity} (hq : q ≠ .cpuShares) :
    (s.behind rs).reading q = s.reading q := by
  have hsample : ∃ sample, s.behind rs = { s with sample } := by
    unfold behind afterShares
    split
    · split
      · exact ⟨_, rfl⟩
      · exact ⟨_, rfl⟩
    · exact ⟨_, rfl⟩
  obtain ⟨sample, hsample⟩ := hsample
  rw [hsample]
  cases q with
  | cpuShares => exact absurd rfl hq
  | _ => rfl

/-- The shares are told behind instruments iff they are told before them. -/
theorem cpuShares_behind_isOk :
    (∃ shares, (s.behind rs).cpuShares = .ok shares) ↔ ∃ shares, s.cpuShares = .ok shares := by
  unfold behind
  split
  next =>
    constructor
    · intro h
      by_contra hanswer
      rw [afterShares_of_no_answer hanswer] at h
      exact hanswer h
    · rintro ⟨shares, hshares⟩
      obtain ⟨lines, hlines, -⟩ := bind_eq_ok.mp hshares
      exact ⟨_, cpuShares_afterShares hshares hlines⟩
  next => rfl

/-- The first line of the CPU that a line is of. -/
def firstLine (lines : List CpuLine) (line : CpuLine) : CpuLine :=
  (lines.find? fun other => other.cpu == line.cpu).getD .zero

/-- What the labels of a state of the CPU at a place show. -/
def shownAt (base : LabelSet) (place : Nat) (field : String) : String → Option Shown :=
  overridden base [("state", .text field), ("cpu", .number (Int64.ofNat (place + 1)).toInt)]

/-- What is seen of the shares of a line of the CPU at a place, held against the
first line of that CPU. -/
def seenAgain (base : LabelSet) (fields : List String) (lines : List CpuLine) (line : CpuLine)
    (place : Nat) : List (Float × (String → Option Shown)) :=
  fields.filterMap fun field =>
    ((sharesBetween (firstLine lines line) line).told.lookup field).join.map fun x =>
      (x / 100, shownAt base place field)

/-- **Measured against the content itself**: there is a part for each line, and
in it what the line is measured as against the first line of its CPU. Of a line
that is the first one of its CPU that is zero for each configured state that it
tells, in the order in which they are configured. -/
def LooksAgain (s : KernelSource) (base : LabelSet) (fields : List String)
    (ms : List Measurement) : Prop :=
  ∃ content all lines parts, s.text "stat" = .ok content ∧ CpuLine.parse content = .ok all
    ∧ lines = all.filter (fun line => line.cpu.isSome)
    ∧ ms = List.flatten parts
    ∧ parts.map (List.map Measurement.shown)
        = lines.zipIdx.map (fun p => seenAgain base fields lines p.1 p.2)
    ∧ ∀ before line after, lines = before ++ line :: after →
        (∀ earlier ∈ before, earlier.cpu ≠ line.cpu) →
        parts[before.length]?.map (List.map Measurement.shown)
          = some (fields.filterMap fun field => (line.told.lookup field).join.map fun _ =>
              ((0 : Float), shownAt base before.length field))

/-- A CPU that went on by nothing has no share in any state. -/
theorem sharesBetween_self (line : CpuLine) (field : String) :
    ((sharesBetween line line).told.lookup field).join.map (· / 100)
      = (line.told.lookup field).join.map fun _ => 0 := by
  have hzero : (0 : Float) / 100 = 0 := by decide +kernel
  have hshare : ∀ ticks before, share 0 ticks before / 100 = 0 := fun _ _ => hzero
  have htold : (line.told.lookup field).join = (CpuState.ofName? field).bind line.ticks? :=
    lookup_map_join CpuState.all CpuState.name line.ticks? field
  rw [← CpuTimes.field?_eq, htold, CpuTimes.field?, Option.map_bind, Option.map_bind]
  refine congrArg (Option.bind _) (funext fun state => ?_)
  show ((line.ticks? state).map _).map _ = (line.ticks? state).map _
  rw [Option.map_map]
  refine congrArg (fun f => (line.ticks? state).map f) (funext fun ticks => ?_)
  show share (_ - _) _ _ / 100 = 0
  rw [Nat.sub_self, hshare]

/-- The first line of a CPU is the one that the CPU is found by. -/
theorem find?_of_first {before after : List CpuLine} {line : CpuLine}
    (h : ∀ earlier ∈ before, earlier.cpu ≠ line.cpu) :
    (before ++ line :: after).find? (fun other => other.cpu == line.cpu) = some line := by
  have hbefore : before.find? (fun other => other.cpu == line.cpu) = none :=
    List.find?_eq_none.mpr fun earlier hearlier hcpu => h earlier hearlier (eq_of_beq hcpu)
  rw [List.find?_append, hbefore, Option.none_or]
  exact List.find?_cons_of_pos (beq_self_eq_true line.cpu)

/-- What is seen of the measurements of a CPU. -/
theorem shown_part (base : LabelSet) (fields : List String) (r : CpuTimes) (place : Nat) :
    (fields.filterMap fun field =>
        labelled base (cpuLabels field place) ((r.field? field).map (· / 100))).map
      Measurement.shown
      = fields.filterMap fun field =>
          (r.told.lookup field).join.map fun x => (x / 100, shownAt base place field) := by
  rw [List.map_filterMap]
  exact List.filterMap_congr fun field _ => shown_cpu (· / 100) r place field

/-- A line that is the first one of its CPU is held against itself. -/
theorem seenAgain_of_first {before after : List CpuLine} {line : CpuLine}
    (h : ∀ earlier ∈ before, earlier.cpu ≠ line.cpu) (base : LabelSet) (fields : List String)
    (place : Nat) :
    seenAgain base fields (before ++ line :: after) line place
      = fields.filterMap fun field => (line.told.lookup field).join.map fun _ =>
          (0, shownAt base place field) := by
  unfold seenAgain firstLine
  rw [find?_of_first h, Option.getD_some]
  refine List.filterMap_congr fun field _ => ?_
  have hzero := congrArg (Option.map (·, shownAt base place field)) (sharesBetween_self line field)
  rwa [Option.map_map, Option.map_map] at hzero

/-- **Where no CPU has two lines**, zero is measured of all that is told. -/
theorem LooksAgain.shown_of_nodup {base : LabelSet} {fields : List String} {ms : List Measurement}
    (h : s.LooksAgain base fields ms) (hlines : s.cpuLines = .ok lines)
    (hnodup : (lines.map CpuLine.cpu).Nodup) :
    ms.map Measurement.shown = lines.zipIdx.flatMap fun p => fields.filterMap fun field =>
      (p.1.told.lookup field).join.map fun _ => (0, shownAt base p.2 field) := by
  obtain ⟨content, all, told, parts, hcontent, hall, htold, rfl, hparts, -⟩ := h
  obtain rfl : lines = told :=
    Except.ok.inj (hlines.symm.trans (cpuLines_eq_ok.mpr ⟨content, all, hcontent, hall, htold⟩))
  rw [List.map_flatten, hparts, ← List.flatMap_def]
  refine List.flatMap_congr fun p hp => ?_
  obtain ⟨hplace, hline⟩ := List.getElem?_eq_some_iff.mp (List.mem_zipIdx_iff_getElem?.mp hp)
  have hsplit : lines = lines.take p.2 ++ p.1 :: lines.drop (p.2 + 1) := by
    rw [← hline, ← List.drop_eq_getElem_cons hplace, List.take_append_drop]
  have hfirst : ∀ earlier ∈ lines.take p.2, earlier.cpu ≠ p.1.cpu := by
    rw [hsplit, List.map_append, List.map_cons] at hnodup
    exact fun earlier hearlier => (List.nodup_append.mp hnodup).2.2 _
      (List.mem_map_of_mem hearlier) _ List.mem_cons_self
  calc seenAgain base fields lines p.1 p.2
      = seenAgain base fields (lines.take p.2 ++ p.1 :: lines.drop (p.2 + 1)) p.1 p.2 :=
        congrArg (seenAgain base fields · p.1 p.2) hsplit
    _ = _ := seenAgain_of_first hfirst base fields p.2

/-- **Shares that are told of the content against itself** are measured so. -/
theorem looksAgain (hlines : s.cpuLines = .ok lines) (base : LabelSet) (fields : List String) :
    s.LooksAgain base fields (cpus base (· / 100)
      (lines.map fun now => sharesBetween (firstLine lines now) now) fields) := by
  obtain ⟨content, all, hcontent, hall, hfilter⟩ := cpuLines_eq_ok.mp hlines
  let part (p : CpuTimes × Nat) : List Measurement := fields.filterMap fun field =>
    labelled base (cpuLabels field p.2) ((p.1.field? field).map (· / 100))
  have hparts : ((lines.map fun now => sharesBetween (firstLine lines now) now).zipIdx.map
        part).map (List.map Measurement.shown)
      = lines.zipIdx.map fun p => seenAgain base fields lines p.1 p.2 := by
    rw [List.zipIdx_map, List.map_map, List.map_map]
    exact List.map_congr_left fun p _ => shown_part base fields _ p.2
  refine ⟨content, all, lines, _, hcontent, hall, hfilter, rfl, hparts, ?_⟩
  intro before line after hsplit hfirst
  have hline : lines.zipIdx[before.length]? = some (line, before.length) := by
    rw [List.getElem?_zipIdx, hsplit, List.getElem?_append_right (Nat.le_refl _)]
    simp
  rw [← List.getElem?_map, hparts, List.getElem?_map, hline, Option.map_some, hsplit]
  exact congrArg some (seenAgain_of_first hfirst base fields before.length)

theorem behind_of_no_answer (h : ¬ ∃ shares, s.cpuShares = .ok shares) : s.behind rs = s := by
  unfold behind
  rw [afterShares_of_no_answer h, ite_self]

end KernelSource

namespace Registration

variable {s : KernelSource} {r : Registration} {rs : List Registration}

/-- **No instrument shows in the measurements of another metric than
utilization.** -/
theorem measured_behind (h : r.metric ≠ .cpuUtilization) :
    r.measured (s.behind rs) = r.measured s := by
  have hquantity : ∀ metric : Metric, metric ≠ .cpuUtilization → metric.quantity ≠ .cpuShares := by
    intro metric hmetric
    cases metric with
    | cpuUtilization => exact absurd rfl hmetric
    | _ => decide
  exact measure_congr (KernelSource.reading_behind (hquantity r.metric h))

/-- Utilization is measured iff it is configured and the shares are told. -/
theorem measured_isOk (h : r.metric = .cpuUtilization) :
    (∃ measurements, r.measured s = .ok measurements)
      ↔ r.asksShares = true ∧ ∃ shares, s.cpuShares = .ok shares := by
  unfold measured asksShares
  rw [h]
  constructor
  · rintro ⟨measurements, hmeasured⟩
    obtain ⟨fields, shares, hfields, hshares, -⟩ := measure_cpuUtilization_eq_ok.mp hmeasured
    exact ⟨decide_eq_true ⟨rfl, Configuration.contains_of_fields? hfields⟩, shares, hshares⟩
  · rintro ⟨hasks, shares, hshares⟩
    obtain ⟨fields, hfields⟩ :=
      Configuration.exists_fields?_of_contains (of_decide_eq_true hasks).2
    have hread : s.reading .cpuShares = .ok shares := hshares
    exact ⟨_, measure_cpuUtilization_eq_ok.mpr ⟨fields, shares, hfields, hread, rfl⟩⟩

theorem measured_of_not_contains (hmetric : r.metric = .cpuUtilization)
    (hconfig : r.config.contains .cpuUtilization = false) :
    r.measured s = .error (.error (.notConfigured .cpuUtilization)) := by
  unfold measured
  rw [hmetric]
  exact measure_eq_error_iff.mpr (.notConfigured (by decide) hconfig)

/-- **What aborts an instrument behind others aborts it alone.** -/
theorem measured_behind_eq_abort {cause : Abort} :
    r.measured (s.behind rs) = .error (.abort cause) ↔ r.measured s = .error (.abort cause) := by
  by_cases hmetric : r.metric = .cpuUtilization
  · by_cases hanswer : ∃ shares, s.cpuShares = .ok shares
    · -- where the shares are told, nothing but the configuration can be missing
      have hno : ∀ source : KernelSource, (∃ shares, source.cpuShares = .ok shares) →
          r.measured source ≠ .error (.abort cause) := by
        rintro source ⟨shares, htold⟩ habort
        obtain ⟨-, hread⟩ := measure_eq_abort_iff.mp habort
        rw [hmetric] at hread
        exact nomatch htold.symm.trans hread
      exact iff_of_false (hno _ (KernelSource.cpuShares_behind_isOk.mpr hanswer)) (hno _ hanswer)
    · rw [KernelSource.behind_of_no_answer hanswer]
  · rw [measured_behind hmetric]

end Registration

/-! ## One instrument after the other -/

namespace Registry

variable {s : KernelSource} {r : Registration} {rs : List Registration}
  {collected : List Collected} {last : Source}

theorem collectFrom_cons_of_abort {cause : Abort} (h : r.measured s = .error (.abort cause)) :
    collectFrom (.kernel s) (r :: rs) = (.error cause, .kernel (s.behind [r])) := by
  have hmeasure : measure (Source.kernel s).reading r.config r.base r.instrument.metric
      = .error (.abort cause) := h
  have hbehind : (Source.kernel s).afterMeasuring r.config r.instrument.metric
      = .kernel (s.behind [r]) := KernelSource.afterMeasuring_kernel
  rw [collectFrom, hmeasure, hbehind]

theorem collectFrom_cons_of_lift {result : Except CollectError (List Measurement)}
    (h : r.measured s = Failure.lift result) :
    collectFrom (.kernel s) (r :: rs)
      = ((collectFrom (.kernel (s.behind [r])) rs).1.map (⟨r.instrument, result⟩ :: ·),
          (collectFrom (.kernel (s.behind [r])) rs).2) := by
  have hbehind : (Source.kernel s).afterMeasuring r.config r.instrument.metric
      = .kernel (s.behind [r]) := KernelSource.afterMeasuring_kernel
  rw [← hbehind]
  exact collectFrom_cons_of_measured h

/-- **A step of a pass.** The first instrument is measured, and the others
behind it. -/
theorem collectFrom_cons_eq_ok :
    (collectFrom (.kernel s) (r :: rs)).1 = .ok collected
      ↔ ∃ result rest, r.measured s = Failure.lift result
        ∧ (collectFrom (.kernel (s.behind [r])) rs).1 = .ok rest
        ∧ collected = ⟨r.instrument, result⟩ :: rest := by
  constructor
  · intro h
    rcases Failure.exists_lift_or_abort (r.measured s) with ⟨result, hresult⟩ | ⟨cause, hcause⟩
    · rw [collectFrom_cons_of_lift hresult] at h
      cases hrest : (collectFrom (.kernel (s.behind [r])) rs).1 with
      | error cause =>
        rw [hrest] at h
        cases h
      | ok rest =>
        rw [hrest] at h
        exact ⟨result, rest, hresult, rfl, (Except.ok.inj h).symm⟩
    · rw [collectFrom_cons_of_abort hcause] at h
      cases h
  · rintro ⟨result, rest, hresult, hrest, rfl⟩
    rw [collectFrom_cons_of_lift hresult, hrest]
    rfl

/-- **A pass is aborted iff one of its instruments alone is.** -/
theorem exists_collectFrom :
    (∃ collected, (collectFrom (.kernel s) rs).1 = .ok collected)
      ↔ ∀ r ∈ rs, ∀ cause, r.measured s ≠ .error (.abort cause) := by
  induction rs generalizing s with
  | nil => exact iff_of_true ⟨[], rfl⟩ fun r hr => by cases hr
  | cons r rs ih =>
    -- the rest of the pass starts from another source, on which the same instruments abort
    have hrest : (∃ rest, (collectFrom (.kernel (s.behind [r])) rs).1 = .ok rest)
        ↔ ∀ r ∈ rs, ∀ cause, r.measured s ≠ .error (.abort cause) := by
      rw [ih]
      exact forall₂_congr fun other _ => forall_congr' fun cause =>
        not_congr Registration.measured_behind_eq_abort
    rw [List.forall_mem_cons, ← hrest]
    constructor
    · rintro ⟨collected, h⟩
      obtain ⟨result, rest, hresult, hrest, -⟩ := collectFrom_cons_eq_ok.mp h
      refine ⟨fun cause habort => ?_, rest, hrest⟩
      rw [hresult] at habort
      cases result <;> cases habort
    · rintro ⟨hno, rest, hrest⟩
      rcases Failure.exists_lift_or_abort (r.measured s) with ⟨result, hresult⟩ | ⟨cause, hcause⟩
      · exact ⟨_, collectFrom_cons_eq_ok.mpr ⟨result, rest, hresult, hrest, rfl⟩⟩
      · exact absurd hcause (hno cause)

/-- **Each instrument is measured on what the ones before it left.** -/
theorem getElem?_collectFrom (h : (collectFrom (.kernel s) rs).1 = .ok collected) (i : Nat) :
    collected[i]?.map (fun entry => (entry.instrument, Failure.lift entry.result))
      = rs[i]?.map fun r => (r.instrument, r.measured (s.behind (rs.take i))) := by
  induction rs generalizing s collected i with
  | nil =>
    cases h
    rfl
  | cons r rs ih =>
    obtain ⟨result, rest, hresult, hrest, rfl⟩ := collectFrom_cons_eq_ok.mp h
    cases i with
    | zero => exact congrArg (fun measured => some (r.instrument, measured)) hresult.symm
    | succ i =>
      -- what is behind the first instrument and then others is behind all of them
      rw [List.getElem?_cons_succ, List.getElem?_cons_succ, List.take_succ_cons,
        ← KernelSource.behind_behind]
      exact ih hrest i

/-- What the first instruments of a pass give is a pass over them. -/
theorem collectFrom_take (h : (collectFrom (.kernel s) rs).1 = .ok collected) (i : Nat) :
    (collectFrom (.kernel s) (rs.take i)).1 = .ok (collected.take i) := by
  induction rs generalizing s collected i with
  | nil =>
    cases h
    rw [List.take_nil, List.take_nil]
    rfl
  | cons r rs ih =>
    obtain ⟨result, rest, hresult, hrest, rfl⟩ := collectFrom_cons_eq_ok.mp h
    cases i with
    | zero => rfl
    | succ i => exact collectFrom_cons_eq_ok.mpr ⟨result, _, hresult, ih hrest i, rfl⟩

/-- Whether utilization was measured in a part of a pass. -/
def Told (collected : List Collected) : Prop :=
  ∃ entry ∈ collected, entry.instrument.metric = .cpuUtilization
    ∧ ∃ measurements, entry.result = .ok measurements

/-- Utilization is measured in a pass iff one of its instruments asks for the
shares and they are told. -/
theorem told_iff (h : (collectFrom (.kernel s) rs).1 = .ok collected) :
    Told collected
      ↔ rs.any Registration.asksShares = true ∧ ∃ shares, s.cpuShares = .ok shares := by
  induction rs generalizing s collected with
  | nil =>
    cases h
    exact iff_of_false (by rintro ⟨entry, hentry, -⟩; cases hentry) fun h => by cases h.1
  | cons r rs ih =>
    obtain ⟨result, rest, hresult, hrest, rfl⟩ := collectFrom_cons_eq_ok.mp h
    have hfirst : (r.instrument.metric = .cpuUtilization
          ∧ ∃ measurements, result = .ok measurements)
        ↔ r.asksShares = true ∧ ∃ shares, s.cpuShares = .ok shares := by
      have hok : (∃ measurements, result = .ok measurements)
          ↔ ∃ measurements, r.measured s = .ok measurements := by
        rw [hresult]
        exact exists_congr fun measurements => Failure.lift_eq_ok.symm
      rw [hok]
      constructor
      · rintro ⟨hmetric, hmeasured⟩
        exact (Registration.measured_isOk hmetric).mp hmeasured
      · intro hasks
        have hmetric : r.metric = .cpuUtilization := (of_decide_eq_true hasks.1).1
        exact ⟨hmetric, (Registration.measured_isOk hmetric).mpr hasks⟩
    rw [Told, List.exists_mem_cons_iff, hfirst, List.any_cons, Bool.or_eq_true, or_and_right]
    refine or_congr_right ((ih hrest).trans ?_)
    rw [KernelSource.cpuShares_behind_isOk]

theorem map_instrument_of_collectFrom (h : (collectFrom (.kernel s) rs).1 = .ok collected) :
    collected.map (·.instrument) = rs.map (·.instrument) := by
  refine List.ext_getElem? fun i => ?_
  have hi := congrArg (Option.map Prod.fst) (getElem?_collectFrom h i)
  rw [Option.map_map, Option.map_map] at hi
  rw [List.getElem?_map, List.getElem?_map]
  exact hi

variable {i : Nat} {entry : Collected}

theorem result_of_collectFrom (h : (collectFrom (.kernel s) rs).1 = .ok collected)
    (hr : rs[i]? = some r) (hentry : collected[i]? = some entry) :
    Failure.lift entry.result = r.measured (s.behind (rs.take i)) := by
  have hi := getElem?_collectFrom h i
  rw [hr, hentry] at hi
  exact (Prod.mk.inj (Option.some.inj hi)).2

/-- **Alone.** An instrument that is not one of utilization, or is not
configured, or is before all answers, gives what it gives alone. -/
theorem result_alone (h : (collectFrom (.kernel s) rs).1 = .ok collected)
    (hr : rs[i]? = some r) (hentry : collected[i]? = some entry)
    (halone : r.metric ≠ .cpuUtilization ∨ r.config.contains .cpuUtilization = false
      ∨ ¬ Told (collected.take i)) :
    Failure.lift entry.result = r.measured s := by
  rw [result_of_collectFrom h hr hentry]
  by_cases hmetric : r.metric = .cpuUtilization
  · rcases halone with hne | hconfig | htold
    · exact absurd hmetric hne
    · rw [Registration.measured_of_not_contains hmetric hconfig,
        Registration.measured_of_not_contains hmetric hconfig]
    · -- no question before this one, or none that was answered: the source is the first one
      rw [told_iff (collectFrom_take h i)] at htold
      by_cases hasks : (rs.take i).any Registration.asksShares = true
      · rw [KernelSource.behind_of_no_answer fun hanswer => htold ⟨hasks, hanswer⟩]
      · rw [KernelSource.behind, if_neg hasks]
  · exact Registration.measured_behind hmetric

/-- **Behind an answer.** A configured instrument of utilization is told
what the file says now against itself. -/
theorem result_behind_told (h : (collectFrom (.kernel s) rs).1 = .ok collected)
    (hr : rs[i]? = some r) (hentry : collected[i]? = some entry)
    (hmetric : r.metric = .cpuUtilization) {fields : List String}
    (hfields : r.config.fields? .cpuUtilization = some fields) (htold : Told (collected.take i)) :
    ∃ ms, entry.result = .ok ms ∧ s.LooksAgain r.base fields ms := by
  obtain ⟨hasks, shares, hshares⟩ := (told_iff (collectFrom_take h i)).mp htold
  obtain ⟨lines, hlines, -⟩ := bind_eq_ok.mp hshares
  have hread : s.afterShares.reading .cpuShares = .ok _ :=
    KernelSource.cpuShares_afterShares hshares hlines
  have hresult := result_of_collectFrom h hr hentry
  rw [KernelSource.behind, if_pos hasks, Registration.measured, hmetric,
    measure_cpuUtilization_eq_ok.mpr ⟨fields, _, hfields, hread, rfl⟩] at hresult
  exact ⟨_, Failure.lift_eq_ok.mp hresult, KernelSource.looksAgain hlines r.base fields⟩

end Registry

/-- **The instruments of a registry do not interfere**, but for those of
utilization. What is registered stays as it was registered, each metric with
what was in force then, and a pass goes through all of it unless an instrument
alone is aborted. An instrument gives what it gives alone on the source of
before the pass, unless it is a configured one of utilization and another of
these was measured before it. Then it is measured from what the file says now
against itself, so that zero is measured of each configured state that is told
by a line which is the first one of its CPU. -/
theorem collectAll_isolated (s : KernelSource) :
    (∀ session steps, ∃ added, (Session.run (.kernel s) session steps).registry.registrations
        = session.registry.registrations ++ added
      ∧ Session.Captures added (session.registered (.kernel s) steps))
    ∧ ∀ registry : Registry,
      ((∃ collected, (registry.collectAll (.kernel s)).1 = .ok collected)
        ↔ ∀ r ∈ registry.registrations, ∀ cause, r.measured s ≠ .error (.abort cause))
      ∧ ∀ collected, (registry.collectAll (.kernel s)).1 = .ok collected →
        collected.map (·.instrument) = registry.registrations.map (·.instrument)
        ∧ ∀ i r entry, registry.registrations[i]? = some r → collected[i]? = some entry →
          (r.metric ≠ .cpuUtilization ∨ r.config.selector? .cpuUtilization = none
              ∨ ¬ Registry.Told (collected.take i) →
            Failure.lift entry.result = r.measured s)
          ∧ ∀ selector, r.metric = .cpuUtilization →
              r.config.selector? .cpuUtilization = some selector →
              Registry.Told (collected.take i) →
              ∃ ms, entry.result = .ok ms ∧ s.LooksAgain r.base selector.fields ms := by
  refine ⟨Session.registrations_run, fun registry =>
    ⟨Registry.exists_collectFrom, fun collected hcollected =>
      ⟨Registry.map_instrument_of_collectFrom hcollected, fun i r entry hr hentry =>
        ⟨fun halone => ?_, fun selector hmetric hselector htold => ?_⟩⟩⟩⟩
  · refine Registry.result_alone hcollected hr hentry (halone.imp_right (Or.imp_left fun h => ?_))
    rw [Configuration.contains, h]
    rfl
  · have hfields : r.config.fields? .cpuUtilization = some selector.fields := by
      rw [Configuration.fields?, hselector]
      rfl
    exact Registry.result_behind_told hcollected hr hentry hmetric hfields htold

/-! ## Two instrumentors -/

/-- A CPU that was busy. -/
def busyLine : CpuLine := ⟨some 0, [30, 0, 0, 10], by decide, by decide⟩

/-- A source with a CPU that went on since the sample. -/
def busySource : KernelSource where
  files := Files.ofOutcomes [("/proc/stat", .ok "cpu0 30 0 0 10\n")]
  root := "/proc"
  sample := some [⟨some 0, [10, 0, 0, 10], by decide, by decide⟩]

/-- A session in which two instrumentors ask for shares of states, under labels of
their own. -/
def twoInstrumentors : List SessionStep :=
  [.configure (some (.set .empty .cpuUtilization ["user"])),
    .label (.ofList [("host", .str "a")]), .instrument,
    .configure (some (.set .empty .cpuUtilization ["steal", "user"])), .label .empty, .instrument,
    .configure none]

/-- The registry that they fill. -/
def sharedRegistry : Registry :=
  (Session.run (.kernel busySource) ⟨.empty, .empty, .empty⟩ twoInstrumentors).registry

/-- The registered instrument of shares of an instrumentor. -/
def shareInstrument (fields : List String) (base : LabelSet) : Registration :=
  ⟨.ofMetric "rust" .cpuUtilization, .set .empty .cpuUtilization fields, base⟩

/-- The first of two instrumentors is told of the time since the sample, and the
second one that the CPU stood still. -/
theorem collectAll_isolated_two_instrumentors :
    ∃ collected first second,
      (sharedRegistry.collectAll (.kernel busySource)).1 = .ok collected
      ∧ collected.length = 34 ∧ collected[1]? = some first ∧ collected[18]? = some second
      ∧ first.result = .ok [⟨1,
          .ofList [("cpu", .int 1), ("host", .str "a"), ("state", .str "user")]⟩]
      ∧ second.result = .ok [⟨0, .ofList [("state", .str "user"), ("cpu", .int 1)]⟩] := by
  obtain ⟨collected, hcollected⟩ :
      ∃ collected, (sharedRegistry.collectAll (.kernel busySource)).1 = .ok collected := by
    have hok : (sharedRegistry.collectAll (.kernel busySource)).1.isOk = true := by
      decide +kernel
    cases hpass : (sharedRegistry.collectAll (.kernel busySource)).1 with
    | ok collected => exact ⟨collected, rfl⟩
    | error cause => rw [hpass] at hok; cases hok
  obtain ⟨hinstruments, hentries⟩ :=
    ((collectAll_isolated busySource).2 sharedRegistry).2 collected hcollected
  have hlength : collected.length = 34 := by
    rw [← List.length_map (·.instrument), hinstruments]
    rfl
  obtain ⟨first, hfirst⟩ : ∃ first, collected[1]? = some first :=
    ⟨_, List.getElem?_eq_getElem (by omega)⟩
  obtain ⟨second, hsecond⟩ : ∃ second, collected[18]? = some second :=
    ⟨_, List.getElem?_eq_getElem (by omega)⟩
  have hmetric (i : Nat) : (collected.map (·.instrument.metric))[i]?
      = (sharedRegistry.registrations.map (·.instrument.metric))[i]? := by
    have h := congrArg (fun instruments => (instruments.map Instrument.metric)[i]?) hinstruments
    rwa [List.map_map, List.map_map] at h
  -- before the first one there is an instrument of another metric
  have hnot : ¬ Registry.Told (collected.take 1) := by
    rintro ⟨entry, hentry, hutilization, -⟩
    obtain ⟨head, rest, rfl⟩ := List.exists_cons_of_length_eq_add_one hlength
    obtain rfl : entry = head := List.mem_singleton.mp hentry
    exact nomatch hutilization.symm.trans (Option.some.inj (hmetric 0))
  have hregistered : sharedRegistry.registrations[1]?
      = some (shareInstrument ["user"] (.ofList [("host", .str "a")])) := rfl
  have hregistered' : sharedRegistry.registrations[18]?
      = some (shareInstrument ["steal", "user"] .empty) := rfl
  have hmeasured : (shareInstrument ["user"] (.ofList [("host", .str "a")])).measured busySource
      = .ok [⟨KernelSource.share 20 30 10 / 100,
          .ofList [("cpu", .int 1), ("host", .str "a"), ("state", .str "user")]⟩] := rfl
  have hwhole : KernelSource.share 20 30 10 / 100 = 1 := by decide +kernel
  have hresult : first.result = .ok [⟨1,
      .ofList [("cpu", .int 1), ("host", .str "a"), ("state", .str "user")]⟩] := by
    have halone := (hentries 1 _ first hregistered hfirst).1 (.inr (.inr hnot))
    rw [hmeasured, hwhole] at halone
    exact Failure.lift_eq_ok.mp halone
  have htold : Registry.Told (collected.take 18) := by
    refine ⟨first, List.mem_of_getElem? (i := 1) ?_, ?_, _, hresult⟩
    · rw [List.getElem?_take_of_lt (by decide), hfirst]
    · have h := hmetric 1
      rw [List.getElem?_map, hfirst] at h
      exact Option.some.inj h
  obtain ⟨ms, hms, hagain⟩ := (hentries 18 _ second hregistered' hsecond).2 _ rfl rfl htold
  have hlines : busySource.cpuLines = .ok [busyLine] := rfl
  have hshown : ms.map Measurement.shown
      = [Measurement.mk 0 (.ofList [("state", .str "user"), ("cpu", .int 1)])].map
          Measurement.shown := by
    refine (hagain.shown_of_nodup hlines (by decide)).trans ?_
    show _ = [((0 : Float), (LabelSet.empty.extend _).shown)]
    rw [shown_extend (by decide)]
    rfl
  obtain rfl := List.map_injective_iff.mpr Measurement.shown_injective hshown
  exact ⟨collected, first, second, hcollected, hlength, hfirst, hsecond, hresult, hms⟩

end HostMetrics
