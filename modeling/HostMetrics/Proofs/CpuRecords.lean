import HostMetrics.Proofs.CpuNumbers

/-!
# Times and shares of CPUs are told alike

The times of a CPU and the shares of its states in its time are read from one
line by two functions. The times are those of the line. The shares look back at
a sample, which may hold no line of the CPU, or one with fewer columns than it
has now, or one with more.

None of this shows in which states are told. A record of either kind tells the
states that the row of the CPU has columns for, whatever the sample is
(`HasFieldsOf`), since a state without a column now is not told and a state
without a column before counts from zero. Hence the records agree one by one,
and so do the measurements that are made of them: both metrics carry the labels
that the text alone determines (`shownLabels`), in the same order, with the
first sample and with every later one
(`KernelSource.times_and_shares_alike`).
-/

namespace HostMetrics

open Proc Collect

namespace Proc

/-- **The rows of single CPUs**, that of all CPUs together left out. -/
def numberedRows (text : String) : List (List (List Char)) :=
  (cpuRows text).filter fun row => row[0]? ≠ some ['c', 'p', 'u']

/-- **A field that a row tells**: it is the name of a state, and the row has a
column for the state behind the name of the CPU. -/
def RowTells (row : List (List Char)) (field : String) : Prop :=
  ∃ state ∈ CpuState.all, state.name = field ∧ state.column + 1 < row.length

instance (row : List (List Char)) (field : String) : Decidable (RowTells row field) :=
  inferInstanceAs (Decidable (∃ state ∈ CpuState.all, _ ∧ _))

/-- **A record with the fields of a row**: it tells what the row does. -/
def HasFieldsOf (row : List (List Char)) (record : CpuTimes) : Prop :=
  ∀ field, (record.field? field).isSome ↔ RowTells row field

end Proc

/-- **Records with the same fields.** -/
def CpuTimes.SameFields (record other : CpuTimes) : Prop :=
  ∀ field, (record.field? field).isSome ↔ (other.field? field).isSome

/-- **The labels that the rows of a text determine**: for each CPU those of the
configured states that its row tells, CPU by CPU. -/
def shownLabels (base : LabelSet) (fields : List String) (text : String) : List LabelSet :=
  (numberedRows text).zipIdx.flatMap fun (row, place) =>
    (fields.filter (RowTells row)).map fun field => base.extend (cpuLabels field place)

/-! ## Records and rows -/

namespace Proc

variable {row : List (List Char)} {line : CpuLine} {record : CpuTimes}

/-- A record that tells the states of a line has the fields of its row. -/
theorem HasFieldsOf.of_ticks (hline : IsCpuLine row line)
    (h : ∀ state, (record.time? state).isSome ↔ (line.ticks? state).isSome) :
    HasFieldsOf row record := by
  intro field
  constructor
  · intro hfield
    obtain ⟨time, htime⟩ := Option.isSome_iff_exists.mp hfield
    obtain ⟨state, hstate, htime⟩ := Option.bind_eq_some_iff.mp htime
    have htold := (h state).mp (Option.isSome_of_eq_some htime)
    exact ⟨state, state.mem_all, CpuState.name_of_ofName? hstate,
      (CpuLine.isSome_ticks?_iff hline state).mp htold⟩
  · rintro ⟨state, -, rfl, hlength⟩
    rw [CpuTimes.field?_name, h]
    exact (CpuLine.isSome_ticks?_iff hline state).mpr hlength

/-- **The times of a line** have the fields of its row. -/
theorem hasFieldsOf_times (hline : IsCpuLine row line) (value : Nat → Float) :
    HasFieldsOf row ⟨fun state => (line.ticks? state).map value⟩ :=
  .of_ticks hline fun _ => by rw [Option.isSome_map]

/-- **The shares since any line before** have the fields of the row of the line
now. -/
theorem hasFieldsOf_shares (hline : IsCpuLine row line) {before : Option CpuLine}
    (h : KernelSource.sharesSince before line = .ok record) : HasFieldsOf row record := by
  obtain ⟨elapsed, -, h⟩ := bind_eq_ok.mp h
  cases Except.ok.inj h
  exact .of_ticks hline fun _ => by rw [Option.isSome_map]

end Proc

/-! ## Labels -/

namespace Collect

variable {rows : List (List (List Char))} {times : List CpuTimes}

/-- What one record adds carries a label for each field that its row tells,
whatever the values are. -/
theorem labels_of_record {row : List (List Char)} {record : CpuTimes}
    (h : HasFieldsOf row record) (base : LabelSet) (value : Float → Float)
    (fields : List String) (place : Nat) :
    (fields.filterMap fun field =>
        labelled base (cpuLabels field place) ((record.field? field).map value)).map
      (·.labels)
    = (fields.filter (RowTells row)).map fun field => base.extend (cpuLabels field place) := by
  rw [List.map_filterMap, ← List.filterMap_eq_map, List.filterMap_filter]
  refine List.filterMap_congr fun field _ => ?_
  by_cases htold : RowTells row field
  · obtain ⟨time, htime⟩ := Option.isSome_iff_exists.mp ((h field).mpr htold)
    rw [htime, if_pos (decide_eq_true htold)]
    rfl
  · have hnone := Option.not_isSome_iff_eq_none.mp (mt (h field).mp htold)
    rw [hnone, if_neg (by simpa using htold)]
    rfl

/-- **The measurements of records carry the labels of their rows.** -/
theorem labels_cpus (h : List.Forall₂ HasFieldsOf rows times) (base : LabelSet)
    (value : Float → Float) (fields : List String) :
    (cpus base value times fields).map (·.labels)
      = rows.zipIdx.flatMap fun (row, place) =>
          (fields.filter (RowTells row)).map fun field => base.extend (cpuLabels field place) := by
  unfold cpus expand
  -- the places are counted on along the list, from any start
  generalize 0 = start
  induction h generalizing start with
  | nil => rfl
  | cons hrecord _ ih =>
    rw [List.zipIdx_cons, List.zipIdx_cons, List.flatMap_cons, List.flatMap_cons, List.map_append,
      labels_of_record hrecord, ih]

end Collect

namespace KernelSource

variable {s s' : KernelSource} {content : String} {lines : List CpuLine}
  {times shares : List CpuTimes} {config : Configuration} {base : LabelSet}
  {fields : List String} {ms : List Measurement}

/-- **The lines of single CPUs are those of the numbered rows.** -/
theorem forall₂_numberedRows (hcontent : s.text "stat" = .ok content)
    (hlines : s.cpuLines = .ok lines) : List.Forall₂ IsCpuLine (numberedRows content) lines := by
  obtain ⟨content', all, hcontent', hall, rfl⟩ := cpuLines_eq_ok.mp hlines
  obtain rfl := Except.ok.inj (hcontent.symm.trans hcontent')
  refine List.rel_filter (fun row line hline => ?_) (((CpuLine.decides_parse _).ok_iff all).mp hall)
  show decide (row[0]? ≠ some ['c', 'p', 'u']) = true ↔ line.cpu.isSome = true
  rw [decide_eq_true_iff, Ne, ← CpuLine.cpu_eq_none_iff hline]
  exact Option.ne_none_iff_isSome

/-- The lines depend on the text of the file and on nothing else. -/
theorem cpuLines_congr (h : s.text "stat" = s'.text "stat") : s.cpuLines = s'.cpuLines := by
  unfold cpuLines
  rw [h]

theorem cpuTimes_eq_ok (hlines : s.cpuLines = .ok lines) :
    s.cpuTimes = .ok (lines.map fun line => ⟨fun state => (line.ticks? state).map seconds⟩) := by
  unfold cpuTimes
  rw [hlines]
  rfl

theorem forall₂_cpuTimes (hcontent : s.text "stat" = .ok content) (h : s.cpuTimes = .ok times) :
    List.Forall₂ HasFieldsOf (numberedRows content) times := by
  obtain ⟨lines, hlines, -⟩ := bind_eq_ok.mp h
  obtain rfl := Except.ok.inj ((cpuTimes_eq_ok hlines).symm.trans h)
  refine List.forall₂_map_right_iff.mpr ((forall₂_numberedRows hcontent hlines).imp ?_)
  exact fun row line hline => hasFieldsOf_times hline seconds

theorem forall₂_cpuShares (hcontent : s.text "stat" = .ok content)
    (h : s.cpuShares = .ok shares) : List.Forall₂ HasFieldsOf (numberedRows content) shares := by
  obtain ⟨lines, hlines, hshares⟩ := bind_eq_ok.mp h
  have hrows := forall₂_numberedRows hcontent hlines
  have hrecords := mapM_eq_ok.mp (mapError_eq_ok.mp hshares)
  refine forall₂_comp ?_ hrows hrecords
  exact fun row line record hline => hasFieldsOf_shares hline

/-- Where shares are told, times are. -/
theorem exists_cpuTimes (hcontent : s.text "stat" = s'.text "stat")
    (h : s'.cpuShares = .ok shares) : ∃ times, s.cpuTimes = .ok times := by
  obtain ⟨lines, hlines, -⟩ := bind_eq_ok.mp h
  exact ⟨_, cpuTimes_eq_ok ((cpuLines_congr hcontent).trans hlines)⟩

theorem labels_cpuTime (hcontent : s.text "stat" = .ok content)
    (hfields : config.fields? .cpuTime = some fields)
    (h : measure s.reading config base .cpuTime = .ok ms) :
    ms.map (·.labels) = shownLabels base fields content := by
  obtain ⟨fields', times, hfields', htimes, rfl⟩ := measure_cpuTime_eq_ok.mp h
  obtain rfl := Option.some.inj (hfields.symm.trans hfields')
  exact labels_cpus (forall₂_cpuTimes hcontent htimes) base id fields

theorem labels_cpuUtilization (hcontent : s.text "stat" = .ok content)
    (hfields : config.fields? .cpuUtilization = some fields)
    (h : measure s.reading config base .cpuUtilization = .ok ms) :
    ms.map (·.labels) = shownLabels base fields content := by
  obtain ⟨fields', shares, hfields', hshares, rfl⟩ := measure_cpuUtilization_eq_ok.mp h
  obtain rfl := Option.some.inj (hfields.symm.trans hfields')
  exact labels_cpus (forall₂_cpuShares hcontent hshares) base (· / 100) fields

/-- **Times and shares of CPUs are told alike.** Take two sources that read one
content of the file, whatever samples they keep: one source before and after
any run, for example. What one tells of times and the other of shares are
records of the rows of single CPUs, one for each row in the order of the rows,
and each with the fields of its row. So the records have the same fields place
by place, and what is measured of the same states carries the same labels in
the same order, which the text determines. If the shares are told, so are the
times. -/
theorem times_and_shares_alike (hcontent : s.text "stat" = .ok content)
    (hcontent' : s'.text "stat" = .ok content) :
    (∀ times, s.cpuTimes = .ok times → List.Forall₂ HasFieldsOf (numberedRows content) times)
    ∧ (∀ shares, s'.cpuShares = .ok shares →
        List.Forall₂ HasFieldsOf (numberedRows content) shares
        ∧ ∃ times, s.cpuTimes = .ok times ∧ List.Forall₂ CpuTimes.SameFields times shares)
    ∧ ∀ (config config' : Configuration) (base : LabelSet) (fields : List String),
        config.fields? .cpuTime = some fields → config'.fields? .cpuUtilization = some fields →
        (∀ ms, measure s.reading config base .cpuTime = .ok ms →
          ms.map (·.labels) = shownLabels base fields content)
        ∧ ∀ ms', measure s'.reading config' base .cpuUtilization = .ok ms' →
          ms'.map (·.labels) = shownLabels base fields content
          ∧ ∃ ms, measure s.reading config base .cpuTime = .ok ms
            ∧ ms.map (·.labels) = ms'.map (·.labels) := by
  have hsame : s.text "stat" = s'.text "stat" := hcontent.trans hcontent'.symm
  refine ⟨fun times => forall₂_cpuTimes hcontent, fun shares hshares => ?_, ?_⟩
  · have hrows := forall₂_cpuShares hcontent' hshares
    obtain ⟨times, htimes⟩ := exists_cpuTimes hsame hshares
    refine ⟨hrows, times, htimes, ?_⟩
    exact forall₂_comp (fun time row share htime hshare field =>
      (htime field).trans (hshare field).symm) (forall₂_cpuTimes hcontent htimes).flip hrows
  · intro config config' base fields hfields hfields'
    refine ⟨fun ms => labels_cpuTime hcontent hfields, fun ms' hms' => ?_⟩
    have hlabels := labels_cpuUtilization hcontent' hfields' hms'
    obtain ⟨-, shares, -, hshares, -⟩ := measure_cpuUtilization_eq_ok.mp hms'
    obtain ⟨times, htimes⟩ := exists_cpuTimes hsame hshares
    have hms : measure s.reading config base .cpuTime = .ok (cpus base id times fields) :=
      measure_cpuTime_eq_ok.mpr ⟨fields, times, hfields, htimes, rfl⟩
    exact ⟨hlabels, _, hms, (labels_cpuTime hcontent hfields hms).trans hlabels.symm⟩

/-- Two CPUs, of which one tells a fifth state. -/
def unequalCpus : String := "cpu  9 9 9 9 9\ncpu0 1 2 3 4 5\ncpu2 6 7 8 9\n"

/-- A source of these CPUs that was asked for shares before, when there was one
CPU only, with more states than it has now. -/
def askedBefore : KernelSource :=
  (ofContent "cpu2 1 1 1 1 1 1\n").run [.ask .cpuShares, .change (ofContent unequalCpus).files]

/-- A configuration of the same states for both metrics. -/
def twoStates : Configuration :=
  .set (.set .empty .cpuTime ["iowait", "user"]) .cpuUtilization ["iowait", "user"]

/-- The sample of the one CPU does not show in the shares, but for their
values. -/
theorem times_and_shares_alike_other_sample :
    askedBefore.sample ≠ none ∧ ∃ times shares ms ms',
      (ofContent unequalCpus).cpuTimes = .ok times ∧ askedBefore.cpuShares = .ok shares
      ∧ List.Forall₂ CpuTimes.SameFields times shares
      ∧ measure (ofContent unequalCpus).reading twoStates .empty .cpuTime = .ok ms
      ∧ measure askedBefore.reading twoStates .empty .cpuUtilization = .ok ms'
      ∧ ms.map (·.labels) = ms'.map (·.labels) ∧ ms'.length = 3 := by
  have hcontent : (ofContent unequalCpus).text "stat" = .ok unequalCpus := rfl
  have hcontent' : askedBefore.text "stat" = .ok unequalCpus := rfl
  obtain ⟨-, hshares, hmeasured⟩ := times_and_shares_alike hcontent hcontent'
  have hanswer : ∃ shares, askedBefore.cpuShares = .ok shares := ⟨_, rfl⟩
  have hms' : ∃ ms', measure askedBefore.reading twoStates .empty .cpuUtilization = .ok ms'
      ∧ ms'.length = 3 := ⟨_, rfl, rfl⟩
  obtain ⟨shares, hanswer⟩ := hanswer
  obtain ⟨ms', hms', hlength⟩ := hms'
  obtain ⟨-, times, htimes, hsame⟩ := hshares shares hanswer
  obtain ⟨-, ms, hms, hlabels⟩ := (hmeasured twoStates twoStates .empty _ rfl rfl).2 ms' hms'
  exact ⟨nofun, times, shares, ms, ms', htimes, hanswer, hsame, hms, hms', hlabels, hlength⟩

end KernelSource

end HostMetrics
