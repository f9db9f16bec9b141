import HostMetrics.Proofs.CpuTable
import HostMetrics.Proofs.MeasureFailures

/-!
# The numbers of CPUs

The measurements of a CPU carry a number under the key `cpu`. It is counted
from one along the list of the CPU lines. The number in the name of a line,
by which the line is found again in the sample, does not come into it.

The two agree for a line that stands at its own place, that of `cpu0` first,
that of `cpu1` second and so on, and for no other line
(`KernelSource.cpu_number_iff_place`). The kernel leaves out a CPU that is
offline, so every line behind it stands too early and its measurements carry
the number of another CPU. When the CPU comes back, they carry their own
number again. So of two contents of the file each gives a CPU the same number
iff its line stands at the same place in both.
-/

namespace HostMetrics

open Proc Collect Text

/-! ## Numbers of lines and of labels -/

/-- Numbers below `2 ^ 64` differ as values if they differ. -/
theorem LabelValue.ofNat_eq_iff {m n : Nat} (hm : m < wordLimit) (hn : n < wordLimit) :
    LabelValue.ofNat m = .ofNat n ↔ m = n := by
  constructor
  · intro h
    have hbits : BitVec.ofNat 64 m = BitVec.ofNat 64 n :=
      congrArg Int64.toBitVec (LabelValue.int.inj h)
    have hvalue := congrArg BitVec.toNat hbits
    rwa [BitVec.toNat_ofNat, BitVec.toNat_ofNat, Nat.mod_eq_of_lt hm,
      Nat.mod_eq_of_lt hn] at hvalue
  · rintro rfl
    rfl

namespace Proc.CpuLine

/-- The number of a CPU has 32 bits. -/
theorem number_lt {content : String} {lines : List CpuLine} (h : parse content = .ok lines)
    {line : CpuLine} (hline : line ∈ lines) {number : Nat} (hcpu : line.cpu = some number) :
    number < limit32 := by
  obtain ⟨row, -, hrow⟩ := exists_of_mem_mapM h hline
  have hname : numberOf? row.1 = some (some number) := hcpu ▸ (ofColumns_eq_ok_iff.mp hrow).1
  unfold numberOf? at hname
  split at hname
  · cases hname
  · obtain ⟨value, hvalue, hsome⟩ := Option.map_eq_some_iff.mp hname
    obtain rfl := Option.some.inj hsome
    exact unsigned?_lt hvalue

end Proc.CpuLine

/-! ## What is measured of a line -/

/-- The same record with each of its numbers converted. -/
def CpuTimes.converted (value : Float → Float) (times : CpuTimes) : CpuTimes :=
  ⟨fun state => (times.time? state).map value⟩

theorem CpuTimes.converted_id : CpuTimes.converted id = id := by
  funext times
  exact congrArg CpuTimes.mk (funext fun state => Option.map_id' ..)

theorem CpuTimes.field?_converted (value : Float → Float) (times : CpuTimes) (field : String) :
    (times.converted value).field? field = (times.field? field).map value :=
  (Option.map_bind ..).symm

/-- The measurements of one CPU, from its record and its place. -/
def placed (base : LabelSet) (fields : List String) (record : CpuTimes) (place : Nat) :
    List Measurement :=
  fields.filterMap fun field => labelled base (cpuLabels field place) (record.field? field)

theorem cpus_eq_flatten (base : LabelSet) (value : Float → Float) (times : List CpuTimes)
    (fields : List String) :
    cpus base value times fields
      = ((times.map (CpuTimes.converted value)).zipIdx.map fun (record, place) =>
          placed base fields record place).flatten := by
  unfold cpus expand
  rw [List.zipIdx_map, List.map_map, List.flatMap_def]
  refine congrArg List.flatten (List.map_congr_left fun (record, place) _ => ?_)
  refine List.filterMap_congr fun field _ => ?_
  show _ = labelled base (cpuLabels field place) _
  rw [CpuTimes.field?_converted]

theorem nodup_keys_cpuLabels (state : String) (place : Nat) :
    ((cpuLabels state place).map Prod.fst).Nodup := by
  show ["state", "cpu"].Nodup
  decide

/-- The number of a measurement of a CPU is counted along the list. -/
theorem number_of_mem_placed {base : LabelSet} {fields : List String} {record : CpuTimes}
    {place : Nat} {m : Measurement} (h : m ∈ placed base fields record place) :
    m.labels.get? "cpu" = some (.ofNat (place + 1)) := by
  obtain ⟨field, -, hm⟩ := List.mem_filterMap.mp h
  obtain ⟨value, -, rfl⟩ := Option.map_eq_some_iff.mp hm
  exact base.get?_extend (nodup_keys_cpuLabels field place) "cpu"

namespace KernelSource

/-- **What a metric of CPUs tells of a line**: the time in each state, or its
share since the line of the same CPU in the sample. -/
def recordOf (s : KernelSource) (metric : Metric) (line : CpuLine) : Except Abort CpuTimes :=
  match metric with
  | .cpuUtilization =>
    (sharesSince (lineBefore? (s.sample.getD []) line) line).map (CpuTimes.converted (· / 100))
  | _ => .ok ⟨fun state => (line.ticks? state).map seconds⟩

/-- **Measurements that derive from a line**: one for each configured state
that the metric tells of it, with the value of the state. -/
def DeriveFrom (s : KernelSource) (metric : Metric) (fields : List String) (line : CpuLine)
    (group : List Measurement) : Prop :=
  ∃ record, s.recordOf metric line = .ok record
    ∧ group.map (fun m => (m.value, m.labels.get? "state"))
      = fields.filterMap fun field =>
          (record.field? field).map fun value => (value, some (.str field))

theorem deriveFrom_placed {s : KernelSource} {metric : Metric} {line : CpuLine}
    {record : CpuTimes} (h : s.recordOf metric line = .ok record) (base : LabelSet)
    (fields : List String) (place : Nat) :
    s.DeriveFrom metric fields line (placed base fields record place) := by
  refine ⟨record, h, ?_⟩
  unfold placed
  rw [List.map_filterMap]
  refine List.filterMap_congr fun field _ => ?_
  rw [labelled, Option.map_map]
  refine congrArg (fun f => Option.map f _) (funext fun value => ?_)
  exact congrArg (Prod.mk value)
    (base.get?_extend (nodup_keys_cpuLabels field place) "state")

/-- **Measurements of a CPU metric, line by line.** They fall into groups,
one for each CPU line, in the order of the lines. -/
structure ByLine (s : KernelSource) (config : Configuration) (metric : Metric)
    (ms : List Measurement) (lines : List CpuLine) (groups : List (List Measurement)) : Prop where
  /-- The lines are the CPU lines that the file has now. -/
  lines_eq : s.cpuLines = .ok lines
  /-- The measurements are the groups one after the other. -/
  eq_flatten : ms = groups.flatten
  /-- Each group derives from its line. -/
  derive : ∃ fields, config.fields? metric = some fields
    ∧ List.Forall₂ (s.DeriveFrom metric fields) lines groups
  /-- The number of a measurement is counted from one along the lines. -/
  numbered : ∀ (place : Nat) (group : List Measurement), groups[place]? = some group →
    ∀ m ∈ group, m.labels.get? "cpu" = some (.ofNat (place + 1))

variable {s : KernelSource} {config : Configuration} {base : LabelSet} {metric : Metric}
  {ms : List Measurement} {lines : List CpuLine} {groups : List (List Measurement)}

/-- A successful measurement of a CPU metric has a record for each line. -/
theorem exists_records (hmetric : metric = .cpuTime ∨ metric = .cpuUtilization)
    (h : measure s.reading config base metric = .ok ms) :
    ∃ lines fields records, s.cpuLines = .ok lines ∧ config.fields? metric = some fields
      ∧ List.Forall₂ (fun line record => s.recordOf metric line = .ok record) lines records
      ∧ ms = (records.zipIdx.map fun (record, place) =>
          placed base fields record place).flatten := by
  rcases hmetric with rfl | rfl
  · obtain ⟨fields, times, hfields, htimes, rfl⟩ := measure_cpuTime_eq_ok.mp h
    obtain ⟨lines, hlines, htimes⟩ := bind_eq_ok.mp htimes
    cases Except.ok.inj htimes
    refine ⟨lines, fields, _, hlines, hfields,
      List.forall₂_map_right_iff.mpr (List.forall₂_same.mpr fun line _ => rfl), ?_⟩
    rw [cpus_eq_flatten, CpuTimes.converted_id, List.map_id]
  · obtain ⟨fields, shares, hfields, hshares, rfl⟩ := measure_cpuUtilization_eq_ok.mp h
    obtain ⟨lines, hlines, hrecords⟩ := bind_eq_ok.mp hshares
    refine ⟨lines, fields, shares.map (CpuTimes.converted (· / 100)), hlines, hfields, ?_,
      cpus_eq_flatten base _ shares fields⟩
    refine List.forall₂_map_right_iff.mpr ((mapM_eq_ok.mp (mapError_eq_ok.mp hrecords)).imp ?_)
    intro line record hrecord
    show (sharesSince _ line).map _ = _
    rw [hrecord]
    rfl

/-- The groups of the records at their places derive from the lines. -/
theorem forall₂_deriveFrom {fields : List String} {records : List CpuTimes} (start : Nat)
    (h : List.Forall₂ (fun line record => s.recordOf metric line = .ok record) lines records) :
    List.Forall₂ (s.DeriveFrom metric fields) lines
      ((records.zipIdx start).map fun (record, place) => placed base fields record place) := by
  induction h generalizing start with
  | nil => exact .nil
  | cons hrecord _ ih => exact .cons (deriveFrom_placed hrecord base fields start) (ih (start + 1))

theorem byLine_of_records {fields : List String} {records : List CpuTimes}
    (hlines : s.cpuLines = .ok lines) (hfields : config.fields? metric = some fields)
    (hrecords : List.Forall₂ (fun line record => s.recordOf metric line = .ok record)
      lines records) :
    let groups := records.zipIdx.map fun (record, place) => placed base fields record place
    s.ByLine config metric groups.flatten lines groups := by
  refine ⟨hlines, rfl, ⟨fields, hfields, forall₂_deriveFrom 0 hrecords⟩, ?_⟩
  intro place group hgroup m hm
  rw [List.getElem?_map, List.getElem?_zipIdx, Option.map_map, Nat.zero_add] at hgroup
  obtain ⟨record, -, rfl⟩ := Option.map_eq_some_iff.mp hgroup
  exact number_of_mem_placed hm

theorem exists_byLine (hmetric : metric = .cpuTime ∨ metric = .cpuUtilization)
    (h : measure s.reading config base metric = .ok ms) :
    ∃ lines groups, s.ByLine config metric ms lines groups := by
  obtain ⟨lines, fields, records, hlines, hfields, hrecords, rfl⟩ := exists_records hmetric h
  exact ⟨lines, _, byLine_of_records hlines hfields hrecords⟩

/-- A CPU line of the file has a number, and the next number fits 64 bits. -/
theorem exists_number (hlines : s.cpuLines = .ok lines) {line : CpuLine} (hline : line ∈ lines) :
    ∃ number, line.cpu = some number ∧ number + 1 < wordLimit := by
  obtain ⟨content, all, -, hall, rfl⟩ := cpuLines_eq_ok.mp hlines
  obtain ⟨hmem, hsome⟩ := List.mem_filter.mp hline
  obtain ⟨number, hnumber⟩ := Option.isSome_iff_exists.mp hsome
  have hlt : number < limit32 := CpuLine.number_lt hall hmem hnumber
  exact ⟨number, hnumber, Nat.lt_of_le_of_lt hlt (by decide)⟩

theorem place_lt {place : Nat} {line : CpuLine} (hlength : lines.length < wordLimit)
    (hline : lines[place]? = some line) : place + 1 < wordLimit := by
  have hplace := (List.getElem?_eq_some_iff.mp hline).1
  omega

/-- **The number of a measurement is that of its CPU iff the line of the CPU
stands at its own place**, `cpu0` first and `cpu1` second. What is measured
of two contents of the file carries one number iff it is of lines at one
place, whichever CPUs these are. -/
theorem cpu_number_iff_place {s' : KernelSource} {config' : Configuration} {base' : LabelSet}
    {metric' : Metric} {ms' : List Measurement}
    (hmetric : metric = .cpuTime ∨ metric = .cpuUtilization)
    (hmetric' : metric' = .cpuTime ∨ metric' = .cpuUtilization)
    (hplaces : ∀ lines, s.cpuLines = .ok lines → lines.length < wordLimit)
    (hplaces' : ∀ lines, s'.cpuLines = .ok lines → lines.length < wordLimit)
    (h : measure s.reading config base metric = .ok ms)
    (h' : measure s'.reading config' base' metric' = .ok ms') :
    ∃ lines groups lines' groups', s.ByLine config metric ms lines groups
      ∧ s'.ByLine config' metric' ms' lines' groups'
      ∧ ∀ (place : Nat) (line : CpuLine) (group : List Measurement),
        lines[place]? = some line → groups[place]? = some group → ∀ m ∈ group,
        m.labels.get? "cpu" = some (.ofNat (place + 1))
        ∧ (∃ number, line.cpu = some number
          ∧ (m.labels.get? "cpu" = some (.ofNat (number + 1)) ↔ number = place))
        ∧ ∀ (place' : Nat) (line' : CpuLine) (group' : List Measurement),
          lines'[place']? = some line' → groups'[place']? = some group' → ∀ m' ∈ group',
          (m'.labels.get? "cpu" = m.labels.get? "cpu" ↔ place' = place) := by
  obtain ⟨lines, groups, hlines⟩ := exists_byLine hmetric h
  obtain ⟨lines', groups', hlines'⟩ := exists_byLine hmetric' h'
  refine ⟨lines, groups, lines', groups', hlines, hlines', ?_⟩
  intro place line group hline hgroup m hm
  have hnumbered := hlines.numbered place group hgroup m hm
  have hplace := place_lt (hplaces lines hlines.lines_eq) hline
  refine ⟨hnumbered, ?_, ?_⟩
  · obtain ⟨number, hnumber, hfits⟩ :=
      exists_number hlines.lines_eq (List.mem_of_getElem? hline)
    refine ⟨number, hnumber, ?_⟩
    rw [hnumbered, Option.some.injEq, LabelValue.ofNat_eq_iff hplace hfits]
    omega
  · intro place' line' group' hline' hgroup' m' hm'
    have hplace' := place_lt (hplaces' lines' hlines'.lines_eq) hline'
    rw [hnumbered, hlines'.numbered place' group' hgroup' m' hm', Option.some.injEq,
      LabelValue.ofNat_eq_iff hplace' hplace]
    omega

/-- A source whose files all have one content. -/
def ofContent (content : String) : KernelSource :=
  ⟨⟨fun _ => .ok content, fun _ => true⟩, "/proc", none⟩

/-- Three CPUs, all of them online. -/
def allOnline : KernelSource := ofContent "cpu0 1 0 0 9\ncpu1 2 0 0 9\ncpu2 3 0 0 9\n"

/-- The same CPUs with the second one offline. -/
def oneOffline : KernelSource := ofContent "cpu0 1 0 0 9\ncpu2 3 0 0 9\n"

/-- A configuration for the time in one state. -/
def userOnly : Configuration := .set .empty .cpuTime ["user"]

/-- The third line of one content and the second one of another do not carry
one number, though both are of `cpu2`. -/
theorem cpu_number_iff_place_one_offline :
    ∃ ms ms', measure allOnline.reading userOnly .empty .cpuTime = .ok ms
      ∧ measure oneOffline.reading userOnly .empty .cpuTime = .ok ms'
      ∧ ms.length = 3 ∧ ms'.length = 2
      ∧ ∃ lines groups lines' groups', allOnline.ByLine userOnly .cpuTime ms lines groups
        ∧ oneOffline.ByLine userOnly .cpuTime ms' lines' groups'
        ∧ ∀ line group line' group', lines[2]? = some line → groups[2]? = some group →
          lines'[1]? = some line' → groups'[1]? = some group' →
          ∀ m ∈ group, ∀ m' ∈ group', m.labels.get? "cpu" = some (.ofNat 3)
            ∧ m'.labels.get? "cpu" ≠ m.labels.get? "cpu" := by
  have hshort : ∀ s : KernelSource, s = allOnline ∨ s = oneOffline →
      ∀ lines, s.cpuLines = .ok lines → lines.length < wordLimit := by
    rintro s (rfl | rfl) lines hlines
    · cases hlines
      decide
    · cases hlines
      decide
  have hmeasured : ∃ ms, measure allOnline.reading userOnly .empty .cpuTime = .ok ms
      ∧ ms.length = 3 := ⟨_, rfl, rfl⟩
  have hmeasured' : ∃ ms, measure oneOffline.reading userOnly .empty .cpuTime = .ok ms
      ∧ ms.length = 2 := ⟨_, rfl, rfl⟩
  obtain ⟨ms, hms, hlength⟩ := hmeasured
  obtain ⟨ms', hms', hlength'⟩ := hmeasured'
  obtain ⟨lines, groups, lines', groups', hlines, hlines', hnumbers⟩ :=
    cpu_number_iff_place (.inl rfl) (.inl rfl) (hshort allOnline (.inl rfl))
      (hshort oneOffline (.inr rfl)) hms hms'
  refine ⟨ms, ms', hms, hms', hlength, hlength', lines, groups, lines', groups', hlines,
    hlines', ?_⟩
  intro line group line' group' hline hgroup hline' hgroup' m hm m' hm'
  obtain ⟨hnumber, -, hsame⟩ := hnumbers 2 line group hline hgroup m hm
  exact ⟨hnumber, fun h => absurd ((hsame 1 line' group' hline' hgroup' m' hm').mp h) (by decide)⟩

/-- **A CPU does not keep its number.** With the second CPU offline, what is
measured of `cpu2` carries the number of the second CPU, and not its own as
before. -/
theorem offline_cpu_shifts_numbers :
    ∃ ms lines groups ms' lines' groups',
      measure allOnline.reading userOnly .empty .cpuTime = .ok ms
      ∧ allOnline.ByLine userOnly .cpuTime ms lines groups
      ∧ lines.map CpuLine.cpu = [some 0, some 1, some 2]
      ∧ groups.map (List.map fun m => m.labels.get? "cpu")
        = [[some (.ofNat 1)], [some (.ofNat 2)], [some (.ofNat 3)]]
      ∧ measure oneOffline.reading userOnly .empty .cpuTime = .ok ms'
      ∧ oneOffline.ByLine userOnly .cpuTime ms' lines' groups'
      ∧ lines'.map CpuLine.cpu = [some 0, some 2]
      ∧ groups'.map (List.map fun m => m.labels.get? "cpu")
        = [[some (.ofNat 1)], [some (.ofNat 2)]] := by
  have hrecords : ∀ lines : List CpuLine, ∀ s : KernelSource,
      List.Forall₂ (fun line record => s.recordOf .cpuTime line = .ok record) lines
        (lines.map fun line => ⟨fun state => (line.ticks? state).map seconds⟩) :=
    fun lines s => List.forall₂_map_right_iff.mpr (List.forall₂_same.mpr fun _ _ => rfl)
  have hbyLine := @byLine_of_records allOnline userOnly .empty .cpuTime _ _ _ rfl rfl
    (hrecords _ allOnline)
  have hbyLine' := @byLine_of_records oneOffline userOnly .empty .cpuTime _ _ _ rfl rfl
    (hrecords _ oneOffline)
  exact ⟨_, _, _, _, _, _, rfl, hbyLine, rfl, rfl, rfl, hbyLine', rfl, rfl⟩

end KernelSource

end HostMetrics
