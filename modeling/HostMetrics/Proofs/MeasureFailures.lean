import HostMetrics.Proofs.CpuSample

/-!
# When a metric cannot be measured

Several things can be wrong at once when a metric is measured: it may not be
configured, its fields may be no directions, the source may not answer, and
a connection may be of no known protocol or lack a configured field. One of
them is reported, and this module says which.

What is known without the source comes first: whether the metric is
configured, and then whether the fields of an interface metric are
directions. A metric that passes is one that the source is asked about
(`Asks`), and what the source fails of is passed on unchanged. Connections
are the only records that are looked at one by one with a chance to fail, so
without any connection nothing is said about the configured fields.

`FailsAs` has one constructor for each of these, and a metric fails as one
of them says (`measure_eq_error_iff`). Whatever it fails of, the source
stays as it was (`afterMeasuring_of_failure`): the sample of CPU lines
changes only when utilization is measured.
-/

namespace HostMetrics

/-- What a metric is measured from. -/
def Metric.quantity : Metric → Quantity
  | cpuTime => .cpuTimes
  | cpuUtilization => .cpuShares
  | memoryUsage | memoryUtilization => .memory
  | swapUsage | swapUtilization => .swap
  | diskBytes | diskOperations | diskTime | diskMerged => .disks
  | networkDropped | networkPackets | networkErrors | networkBytes => .interfaces
  | networkConnections => .connections
  | runtimeMemory => .processMemory
  | runtimeCpuTime => .processTimes
  | runtimeGcCount => .collections

/-- The metrics whose fields are directions. -/
def Metric.directed : List Metric :=
  [networkDropped, networkPackets, networkErrors, networkBytes]

/-- The fields of a connection. -/
def Connection.fieldNames : List String :=
  ["fd", "family", "type", "laddr", "raddr", "status", "pid"]

theorem Connection.field?_eq_none_iff {c : Connection} {field : String} :
    c.field? field = none ↔ field ∉ fieldNames := by
  unfold field? fieldNames
  split <;> simp_all

namespace Configuration

variable {config : Configuration} {metric : Metric} {fields : List String}

theorem contains_of_fields? (h : config.fields? metric = some fields) :
    config.contains metric = true := by
  obtain ⟨selector, hselector, -⟩ := Option.map_eq_some_iff.mp h
  exact Option.isSome_iff_exists.mpr ⟨selector, hselector⟩

theorem exists_fields?_of_contains (h : config.contains metric = true) :
    ∃ fields, config.fields? metric = some fields := by
  obtain ⟨selector, hselector⟩ := Option.isSome_iff_exists.mp h
  exact ⟨selector.fields, congrArg (Option.map Selector.fields) hselector⟩

end Configuration

namespace Collect

/-- **Why a connection cannot be labelled**, if it cannot: its kind comes
first, then the configured fields in their order. -/
def labelFault? (fields : List String) (c : Connection) : Option CollectError :=
  if c.kind ≠ 1 ∧ c.kind ≠ 2 then some (.unknownProtocol c.kind)
  else (fields.find? (· ∉ Connection.fieldNames)).map (.unsupportedField .networkConnections)

/-- **A metric that the source is asked about**: it is configured, unless it
is the one that need not be, and with nothing but directions if directions
are its fields. -/
def Asks (config : Configuration) (metric : Metric) : Prop :=
  (metric = .runtimeGcCount ∨ config.contains metric = true)
    ∧ (metric ∈ Metric.directed → ∀ fields, config.fields? metric = some fields →
        ∀ field ∈ fields, field ∈ ["receive", "transmit"])

/-- **What a metric fails of.** -/
inductive FailsAs (reading : Reading) (config : Configuration) (metric : Metric) :
    Failure CollectError → Prop
  /-- It is not configured. -/
  | notConfigured (hmetric : metric ≠ .runtimeGcCount) (h : config.contains metric = false) :
    FailsAs reading config metric (.error (.notConfigured metric))
  /-- The first of its fields that should be a direction and is none. -/
  | unknownDirection {fields : List String} {field : String} (hmetric : metric ∈ Metric.directed)
      (hfields : config.fields? metric = some fields)
      (hfield : fields.find? (· ∉ ["receive", "transmit"]) = some field) :
    FailsAs reading config metric (.error (.unknownDirection metric field))
  /-- The source is asked and fails. -/
  | ofSource {failure : Failure ReadError} (hasks : Asks config metric)
      (hread : reading metric.quantity = .error failure) :
    FailsAs reading config metric (failure.map .reading)
  /-- The first connection that cannot be labelled. -/
  | ofConnection {fields : List String} {connections : List Connection} {cause : CollectError}
      (hmetric : metric = .networkConnections) (hfields : config.fields? metric = some fields)
      (hread : reading .connections = .ok connections)
      (hfault : connections.findSome? (labelFault? fields) = some cause) :
    FailsAs reading config metric (.error cause)

variable {reading : Reading} {config : Configuration} {base : LabelSet} {metric : Metric}
  {failure : Failure CollectError} {fields : List String}

/-! ## The steps of a measurement -/

/-- A step that needs the configured fields fails if there are none, or as
what is done with them. -/
theorem fieldsOf_bind_eq_error {measured : List String → Measured} :
    (fieldsOf config metric >>= measured) = .error failure
      ↔ (config.contains metric = false ∧ .error (.notConfigured metric) = failure)
        ∨ ∃ fields, config.fields? metric = some fields ∧ measured fields = .error failure := by
  unfold fieldsOf Configuration.contains Configuration.fields?
  cases config.selector? metric with
  | none => simp
  | some selector => simp

/-- A step that needs an answer of the source fails as the source, or as
what is done with the answer. -/
theorem ask_bind_eq_error {q : Quantity} {measured : q.Value → Measured} :
    (ask reading q >>= measured) = .error failure
      ↔ (∃ own, reading q = .error own ∧ own.map .reading = failure)
        ∨ ∃ answer, reading q = .ok answer ∧ measured answer = .error failure := by
  rw [bind_eq_error]
  exact or_congr mapError_eq_error (exists_congr fun answer => and_congr_left' ask_eq_ok)

theorem lift_bind_eq_error {α : Type} {x : Except CollectError α} {measured : α → Measured} :
    (Failure.lift x >>= measured) = .error failure
      ↔ (∃ cause, x = .error cause ∧ .error cause = failure)
        ∨ ∃ a, x = .ok a ∧ measured a = .error failure := by
  rw [bind_eq_error]
  exact or_congr mapError_eq_error (exists_congr fun a => and_congr_left' Failure.lift_eq_ok)

/-- The first field that is no direction is reported. -/
theorem mapM_directionOf_eq_error {cause : CollectError} :
    fields.mapM (directionOf metric) = .error cause
      ↔ ∃ field, fields.find? (· ∉ ["receive", "transmit"]) = some field
        ∧ .unknownDirection metric field = cause := by
  refine mapM_eq_error_iff_find? fun field own => ?_
  rw [decide_eq_true_iff, ← Direction.ofName?_eq_none_iff]
  unfold directionOf
  cases Direction.ofName? field <;> simp

/-- There are directions iff all fields are the name of one. -/
theorem mapM_directionOf_eq_ok :
    (∃ directions, fields.mapM (directionOf metric) = .ok directions)
      ↔ ∀ field ∈ fields, field ∈ ["receive", "transmit"] := by
  rw [exists_mapM_eq_ok]
  refine forall₂_congr fun field _ => ?_
  rw [← not_iff_not, ← Direction.ofName?_eq_none_iff]
  unfold directionOf
  cases Direction.ofName? field <;> simp

theorem fieldLabel?_eq_error {c : Connection} {field : String} {cause : CollectError} :
    fieldLabel? c field = .error cause
      ↔ decide (field ∉ Connection.fieldNames) = true
        ∧ .unsupportedField .networkConnections field = cause := by
  rw [decide_eq_true_iff, ← Connection.field?_eq_none_iff (c := c)]
  unfold fieldLabel?
  cases c.field? field <;> simp

/-- **A connection has no group for the reason that it cannot be labelled.** -/
theorem groupOf_eq_error {c : Connection} {cause : CollectError} :
    groupOf base fields c = .error cause ↔ labelFault? fields c = some cause := by
  have hlabels : ∀ label : List (Option Label) → LabelSet,
      ((fields.mapM (fieldLabel? c) >>= fun labels => .ok (label labels)) = .error cause)
        ↔ (fields.find? (· ∉ Connection.fieldNames)).map (.unsupportedField .networkConnections)
          = some cause := by
    intro label
    rw [bind_eq_error, mapM_eq_error_iff_find? fun _ _ => fieldLabel?_eq_error,
      Option.map_eq_some_iff]
    simp
  have hstream : (1 : UInt32) = Connection.streamKind := rfl
  have hdatagram : (2 : UInt32) = Connection.datagramKind := rfl
  unfold groupOf protocolOf labelFault?
  rw [hstream, hdatagram]
  by_cases hs : c.kind = Connection.streamKind
  · rw [if_pos hs, if_neg fun h => h.1 hs]
    exact hlabels _
  · rw [if_neg hs]
    by_cases hd : c.kind = Connection.datagramKind
    · rw [if_pos hd, if_neg fun h => h.2 hd]
      exact hlabels _
    · rw [if_neg hd, if_pos ⟨hs, hd⟩, error_bind, Except.error.injEq, Option.some.injEq]

/-- Connections have no groups for the reason of the first of them that has
none. -/
theorem groups_eq_error {digest : LabelSet → UInt64} {connections : List Connection}
    {cause : CollectError} :
    groups digest base fields connections = .error cause
      ↔ connections.findSome? (labelFault? fields) = some cause := by
  unfold groups
  rw [bind_eq_error, mapM_eq_error_iff_findSome? fun _ _ => groupOf_eq_error]
  refine or_iff_left ?_
  rintro ⟨labels, -, h⟩
  cases h

/-! ## The kinds of metric -/

/-- Most metrics are configured or not, and the source answers or not. -/
theorem plain_eq_error {told : metric.quantity.Value → List String → List Measurement}
    (hgc : metric ≠ .runtimeGcCount) (hplain : metric ∉ Metric.directed)
    (hconnections : metric ≠ .networkConnections) :
    (do
      let fields ← fieldsOf config metric
      let answer ← ask reading metric.quantity
      return told answer fields) = .error failure
      ↔ FailsAs reading config metric failure := by
  have hdirected : metric ∈ Metric.directed → ∀ fields, config.fields? metric = some fields →
      ∀ field ∈ fields, field ∈ ["receive", "transmit"] := fun h => absurd h hplain
  rw [fieldsOf_bind_eq_error]
  constructor
  · rintro (⟨hconfig, rfl⟩ | ⟨fields, hfields, h⟩)
    · exact .notConfigured hgc hconfig
    · rcases ask_bind_eq_error.mp h with ⟨own, hread, rfl⟩ | ⟨answer, -, h⟩
      · exact .ofSource ⟨.inr (Configuration.contains_of_fields? hfields), hdirected⟩ hread
      · cases h
  · intro h
    cases h with
    | notConfigured _ hconfig => exact .inl ⟨hconfig, rfl⟩
    | unknownDirection hmetric => exact absurd hmetric hplain
    | ofConnection hmetric => exact absurd hmetric hconnections
    | ofSource hasks hread =>
      obtain ⟨fields, hfields⟩ :=
        Configuration.exists_fields?_of_contains (hasks.1.resolve_left hgc)
      exact .inr ⟨fields, hfields, ask_bind_eq_error.mpr (.inl ⟨_, hread, rfl⟩)⟩

/-- The fields of an interface metric are looked at before the source is
asked. -/
theorem directed_eq_error {told : metric.quantity.Value → List Direction → List Measurement}
    (hdirected : metric ∈ Metric.directed) :
    (do
      let fields ← fieldsOf config metric
      let directions ← Failure.lift (fields.mapM (directionOf metric))
      let answer ← ask reading metric.quantity
      return told answer directions) = .error failure
      ↔ FailsAs reading config metric failure := by
  have hgc : metric ≠ .runtimeGcCount := ne_of_mem_of_not_mem hdirected (by decide)
  have hconnections : metric ≠ .networkConnections := ne_of_mem_of_not_mem hdirected (by decide)
  rw [fieldsOf_bind_eq_error]
  constructor
  · rintro (⟨hconfig, rfl⟩ | ⟨fields, hfields, h⟩)
    · exact .notConfigured hgc hconfig
    · rcases lift_bind_eq_error.mp h with ⟨cause, hcause, rfl⟩ | ⟨directions, hdirections, h⟩
      · obtain ⟨field, hfield, rfl⟩ := mapM_directionOf_eq_error.mp hcause
        exact .unknownDirection hdirected hfields hfield
      · rcases ask_bind_eq_error.mp h with ⟨own, hread, rfl⟩ | ⟨answer, -, h⟩
        · -- the source is asked only where every field was found to be a direction
          refine .ofSource ⟨.inr (Configuration.contains_of_fields? hfields), ?_⟩ hread
          rintro - fields' hfields'
          obtain rfl := Option.some.inj (hfields.symm.trans hfields')
          exact mapM_directionOf_eq_ok.mp ⟨directions, hdirections⟩
        · cases h
  · intro h
    cases h with
    | notConfigured _ hconfig => exact .inl ⟨hconfig, rfl⟩
    | unknownDirection _ hfields hfield =>
      exact .inr ⟨_, hfields, lift_bind_eq_error.mpr
        (.inl ⟨_, mapM_directionOf_eq_error.mpr ⟨_, hfield, rfl⟩, rfl⟩)⟩
    | ofConnection hmetric => exact absurd hmetric hconnections
    | ofSource hasks hread =>
      obtain ⟨fields, hfields⟩ :=
        Configuration.exists_fields?_of_contains (hasks.1.resolve_left hgc)
      obtain ⟨directions, hdirections⟩ :=
        mapM_directionOf_eq_ok.mpr (hasks.2 hdirected fields hfields)
      exact .inr ⟨fields, hfields, lift_bind_eq_error.mpr
        (.inr ⟨directions, hdirections, ask_bind_eq_error.mpr (.inl ⟨_, hread, rfl⟩)⟩)⟩

/-- The fields of connections are looked at after the source is asked, and
only for the connections that there are. -/
theorem connectionsBy_eq_error {digest : LabelSet → UInt64} :
    connectionsBy digest reading config base = .error failure
      ↔ FailsAs reading config .networkConnections failure := by
  unfold connectionsBy
  rw [fieldsOf_bind_eq_error]
  constructor
  · rintro (⟨hconfig, rfl⟩ | ⟨fields, hfields, h⟩)
    · exact .notConfigured (by decide) hconfig
    · rcases ask_bind_eq_error.mp h with ⟨own, hread, rfl⟩ | ⟨connections, hread, h⟩
      · exact .ofSource ⟨.inr (Configuration.contains_of_fields? hfields),
          fun h => absurd h (by decide)⟩ hread
      · rcases lift_bind_eq_error.mp h with ⟨cause, hcause, rfl⟩ | ⟨groups, -, h⟩
        · exact .ofConnection rfl hfields hread (groups_eq_error.mp hcause)
        · cases h
  · intro h
    cases h with
    | notConfigured _ hconfig => exact .inl ⟨hconfig, rfl⟩
    | unknownDirection hmetric => exact absurd hmetric (by decide)
    | ofConnection _ hfields hread hfault =>
      exact .inr ⟨_, hfields, ask_bind_eq_error.mpr
        (.inr ⟨_, hread, lift_bind_eq_error.mpr (.inl ⟨_, groups_eq_error.mpr hfault, rfl⟩)⟩)⟩
    | ofSource hasks hread =>
      obtain ⟨fields, hfields⟩ :=
        Configuration.exists_fields?_of_contains (hasks.1.resolve_left (by decide))
      exact .inr ⟨fields, hfields, ask_bind_eq_error.mpr (.inl ⟨_, hread, rfl⟩)⟩

/-- Garbage collections are told or not, configured or not. -/
theorem collections_eq_error :
    (do
      let numbers ← ask reading .collections
      return collections base numbers) = .error failure
      ↔ FailsAs reading config .runtimeGcCount failure := by
  constructor
  · intro h
    rcases ask_bind_eq_error.mp h with ⟨own, hread, rfl⟩ | ⟨numbers, -, h⟩
    · exact .ofSource ⟨.inl rfl, fun h => absurd h (by decide)⟩ hread
    · cases h
  · intro h
    cases h with
    | notConfigured hmetric => exact absurd rfl hmetric
    | unknownDirection hmetric => exact absurd hmetric (by decide)
    | ofConnection hmetric => cases hmetric
    | ofSource _ hread => exact ask_bind_eq_error.mpr (.inl ⟨_, hread, rfl⟩)

end Collect

open Collect

/-! ## All metrics -/

/-- **A metric fails as one of the ways of failing says.** -/
theorem measure_eq_error_iff {reading : Reading} {config : Configuration} {base : LabelSet}
    {metric : Metric} {failure : Failure CollectError} :
    measure reading config base metric = .error failure
      ↔ FailsAs reading config metric failure := by
  cases metric with
  | networkConnections => exact connectionsBy_eq_error
  | runtimeGcCount => exact collections_eq_error
  | networkDropped | networkPackets | networkErrors | networkBytes =>
    exact directed_eq_error (by decide)
  | _ => exact plain_eq_error (by decide) (by decide) (by decide)

/-- Only what is not configured is reported to be so. -/
theorem Collect.FailsAs.notConfigured_iff {reading : Reading} {config : Configuration}
    {metric other : Metric} :
    FailsAs reading config metric (.error (.notConfigured other))
      ↔ other = metric ∧ metric ≠ .runtimeGcCount ∧ config.contains metric = false := by
  constructor
  · intro h
    generalize hcause : Failure.error (CollectError.notConfigured other) = failure at h
    cases h with
    | notConfigured hmetric hconfig =>
      cases hcause
      exact ⟨rfl, hmetric, hconfig⟩
    | unknownDirection => cases hcause
    | @ofSource own => cases own <;> cases hcause
    | ofConnection _ _ _ hfault =>
      cases hcause
      obtain ⟨c, -, hc⟩ := List.exists_of_findSome?_eq_some hfault
      unfold labelFault? at hc
      split at hc
      · cases hc
      · obtain ⟨field, -, hfield⟩ := Option.map_eq_some_iff.mp hc
        cases hfield
  · rintro ⟨rfl, hmetric, hconfig⟩
    exact .notConfigured hmetric hconfig

/-- **A metric aborts iff the source is asked and aborts.** -/
theorem measure_eq_abort_iff {reading : Reading} {config : Configuration} {base : LabelSet}
    {metric : Metric} {cause : Abort} :
    measure reading config base metric = .error (.abort cause)
      ↔ Asks config metric ∧ reading metric.quantity = .error (.abort cause) := by
  rw [measure_eq_error_iff]
  constructor
  · intro h
    generalize hfailure : Failure.abort cause = failure at h
    cases h with
    | notConfigured => cases hfailure
    | unknownDirection => cases hfailure
    | ofConnection => cases hfailure
    | @ofSource own hasks hread =>
      cases own with
      | error own => cases hfailure
      | abort own =>
        cases hfailure
        exact ⟨hasks, hread⟩
  · rintro ⟨hasks, hread⟩
    exact .ofSource hasks hread

/-- What the times of CPUs are measured to be, if they are. -/
theorem measure_cpuTime_eq_ok {reading : Reading} {config : Configuration} {base : LabelSet}
    {measurements : List Measurement} :
    measure reading config base .cpuTime = .ok measurements
      ↔ ∃ fields times, config.fields? .cpuTime = some fields
        ∧ reading .cpuTimes = .ok times ∧ measurements = cpus base id times fields := by
  constructor
  · intro h
    obtain ⟨fields, hfields, h⟩ := bind_eq_ok.mp h
    obtain ⟨times, htimes, h⟩ := bind_eq_ok.mp h
    exact ⟨fields, times, fieldsOf_eq_ok.mp hfields, ask_eq_ok.mp htimes,
      (Except.ok.inj h).symm⟩
  · rintro ⟨fields, times, hfields, htimes, rfl⟩
    exact bind_eq_ok.mpr ⟨fields, fieldsOf_eq_ok.mpr hfields,
      bind_eq_ok.mpr ⟨times, ask_eq_ok.mpr htimes, rfl⟩⟩

/-- What utilization is measured to be, if it is. -/
theorem measure_cpuUtilization_eq_ok {reading : Reading} {config : Configuration}
    {base : LabelSet} {measurements : List Measurement} :
    measure reading config base .cpuUtilization = .ok measurements
      ↔ ∃ fields shares, config.fields? .cpuUtilization = some fields
        ∧ reading .cpuShares = .ok shares ∧ measurements = cpus base (· / 100) shares fields := by
  constructor
  · intro h
    obtain ⟨fields, hfields, h⟩ := bind_eq_ok.mp h
    obtain ⟨shares, hshares, h⟩ := bind_eq_ok.mp h
    exact ⟨fields, shares, fieldsOf_eq_ok.mp hfields, ask_eq_ok.mp hshares,
      (Except.ok.inj h).symm⟩
  · rintro ⟨fields, shares, hfields, hshares, rfl⟩
    exact bind_eq_ok.mpr ⟨fields, fieldsOf_eq_ok.mpr hfields,
      bind_eq_ok.mpr ⟨shares, ask_eq_ok.mpr hshares, rfl⟩⟩

/-! ## The source behind a measurement -/

namespace Source

variable {source : Source} {config : Configuration} {base : LabelSet} {metric : Metric}

theorem afterMeasuring_of_ne (h : metric ≠ .cpuUtilization) :
    source.afterMeasuring config metric = source :=
  if_neg fun hmetric => h hmetric.1

/-- **A failure leaves the source as it was.** -/
theorem afterMeasuring_of_failure {failure : Failure CollectError}
    (h : measure source.reading config base metric = .error failure) :
    source.afterMeasuring config metric = source := by
  by_cases hasked : metric = .cpuUtilization ∧ config.contains metric
  · obtain ⟨rfl, hconfig⟩ := hasked
    cases source with
    | fixed s => exact if_pos ⟨rfl, hconfig⟩
    | kernel s =>
      have hanswer : ¬ ∃ shares, s.cpuShares = .ok shares := by
        rintro ⟨shares, hshares⟩
        obtain ⟨fields, hfields⟩ := Configuration.exists_fields?_of_contains hconfig
        have hread : (kernel s).reading .cpuShares = .ok shares := hshares
        rw [measure_cpuUtilization_eq_ok.mpr ⟨fields, shares, hfields, hread, rfl⟩] at h
        cases h
      exact (if_pos ⟨rfl, hconfig⟩).trans
        (congrArg kernel (KernelSource.afterShares_of_no_answer hanswer))
  · exact if_neg hasked

/-- Behind a measurement of utilization the lines that it is from are kept. -/
theorem afterMeasuring_of_utilization {s : KernelSource} {measurements : List Measurement}
    (h : measure s.reading config base .cpuUtilization = .ok measurements) :
    ∃ lines, s.cpuLines = .ok lines
      ∧ (kernel s).afterMeasuring config .cpuUtilization
        = kernel { s with sample := some lines } := by
  obtain ⟨fields, shares, hfields, hshares, -⟩ := measure_cpuUtilization_eq_ok.mp h
  obtain ⟨lines, hlines, -⟩ := bind_eq_ok.mp hshares
  exact ⟨lines, hlines, (if_pos ⟨rfl, Configuration.contains_of_fields? hfields⟩).trans
    (congrArg kernel (KernelSource.afterShares_of_answer hshares hlines))⟩

end Source

/-- **How a measurement ends.** Of all that can be wrong with it, what
`FailsAs` says is reported and nothing else, so a measurement of which
nothing is wrong has a result. The source is unchanged unless utilization
was measured with a result, and then its sample is what was read. -/
theorem measure_outcome (reading : Reading) (config : Configuration) (base : LabelSet)
    (metric : Metric) :
    (∀ failure, measure reading config base metric = .error failure
        ↔ FailsAs reading config metric failure)
    ∧ ((∃ measurements, measure reading config base metric = .ok measurements)
        ↔ ∀ failure, ¬ FailsAs reading config metric failure)
    ∧ (metric ≠ .runtimeGcCount →
        (measure reading config base metric = .error (.error (.notConfigured metric))
          ↔ config.contains metric = false))
    ∧ (∀ other, measure reading config base .runtimeGcCount
        ≠ .error (.error (.notConfigured other)))
    ∧ (config.contains .networkConnections = true → reading .connections = .ok [] →
        measure reading config base .networkConnections = .ok [])
    ∧ ∀ source : Source,
        (metric ≠ .cpuUtilization → source.afterMeasuring config metric = source)
        ∧ (∀ failure, measure source.reading config base metric = .error failure →
            source.afterMeasuring config metric = source)
        ∧ ∀ s measurements, source = .kernel s → metric = .cpuUtilization →
            measure source.reading config base metric = .ok measurements →
            ∃ lines, s.cpuLines = .ok lines
              ∧ source.afterMeasuring config metric = .kernel { s with sample := some lines } := by
  refine ⟨fun failure => measure_eq_error_iff, ?_, ?_, ?_, ?_, fun source =>
    ⟨Source.afterMeasuring_of_ne, fun failure => Source.afterMeasuring_of_failure, ?_⟩⟩
  · constructor
    · rintro ⟨measurements, h⟩ failure hfails
      rw [measure_eq_error_iff.mpr hfails] at h
      cases h
    · intro h
      cases houtcome : measure reading config base metric with
      | ok measurements => exact ⟨measurements, rfl⟩
      | error failure => exact absurd (measure_eq_error_iff.mp houtcome) (h failure)
  · intro hmetric
    rw [measure_eq_error_iff, FailsAs.notConfigured_iff]
    exact ⟨fun h => h.2.2, fun hconfig => ⟨rfl, hmetric, hconfig⟩⟩
  · intro other h
    exact (FailsAs.notConfigured_iff.mp (measure_eq_error_iff.mp h)).2.1 rfl
  · intro hconfig hread
    obtain ⟨fields, hfields⟩ := Configuration.exists_fields?_of_contains hconfig
    exact bind_eq_ok.mpr ⟨fields, fieldsOf_eq_ok.mpr hfields,
      bind_eq_ok.mpr ⟨[], ask_eq_ok.mpr hread, rfl⟩⟩
  · rintro s measurements rfl rfl h
    exact Source.afterMeasuring_of_utilization h

end HostMetrics
