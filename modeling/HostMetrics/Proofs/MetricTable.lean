import HostMetrics.Collect.Basic
import HostMetrics.Proofs.Binary64
import HostMetrics.Proofs.RecordFields
import HostMetrics.Proofs.Sequence

/-!
# The table of the metrics

Every metric but that of the connections is a row of one table. The row says
what the source is asked for, which field of a record a configured field
stands for, how its value is scaled, and under which key the configured field
is shown. What such a metric is measured as is then the same for all of them:
for each record and each configured field, in this order, the record's value
if it has one, with the base labels overridden by what is shown of field and
record.

So a metric is measured iff its row describes something, and as that
(`measure_eq_ok_iff_row`). The row describes nothing if the metric is not
configured, if a configured field stands for no field, or if the source does
not answer.

The table has its values from lists of the parts of each record
(`CpuTimes.told` and its like), each part under its name, and a counter as
the nearest number of 64 bits. It does not ask a record for a field by name,
which is what measuring does; that the two come to the same is shown for each
kind of record (`CpuTimes.field?_eq` and its like).

Measurements are compared with the table through what can be seen of them,
their value and what is shown under each key (`Measurement.shown`), so that
the table needs no label sets. Nothing is lost by this, since measurements
that look the same are the same (`Measurement.shown_injective`).
-/

namespace HostMetrics

/-! ## What is seen of a measurement -/

/-- What a label shows. -/
inductive Shown where
  /-- A number. -/
  | number (n : Int)
  /-- A text. -/
  | text (s : String)
deriving DecidableEq, Repr

/-- What a label value shows. -/
def LabelValue.shown : LabelValue → Shown
  | .int n => .number n.toInt
  | .str s => .text s

/-- What a label set shows under a key. -/
def LabelSet.shown (s : LabelSet) (key : String) : Option Shown :=
  (s.get? key).map LabelValue.shown

/-- What is seen of a measurement: its value, and what is shown under each
key. -/
def Measurement.shown (m : Measurement) : Float × (String → Option Shown) :=
  (m.value, m.labels.shown)

theorem LabelValue.shown_injective : Function.Injective LabelValue.shown := by
  intro v w h
  cases v with
  | int m =>
    cases w with
    | int n => exact congrArg int (Int64.toInt_inj.mp (Shown.number.inj h))
    | str t => cases h
  | str s =>
    cases w with
    | int n => cases h
    | str t => exact congrArg str (Shown.text.inj h)

/-- **Measurements that look the same are the same.** -/
theorem Measurement.shown_injective : Function.Injective Measurement.shown := by
  rintro ⟨x, s⟩ ⟨y, t⟩ h
  obtain ⟨hvalue, hlabels⟩ := Prod.mk.inj h
  have hst : s = t := LabelSet.ext_get? fun key =>
    Option.map_injective LabelValue.shown_injective (congrFun hlabels key)
  rw [show x = y from hvalue, hst]

/-- What is shown under each key when the labels of a base are overridden. -/
def overridden (base : LabelSet) (labels : List (String × Shown)) (key : String) :
    Option Shown :=
  (labels.lookup key).or (base.shown key)

/-! ## Records -/

/-- What the table sees of a record. -/
structure RecordView where
  /-- What tells the record apart from the others. -/
  label? : Option (String × Shown)
  /-- The whole that its values are parts of. -/
  whole : Nat
  /-- Its fields by their names, with their values as far as they are told. -/
  fields : List (String × Option Float)

/-- The value of a field. -/
def RecordView.value? (record : RecordView) (field : String) : Option Float :=
  (record.fields.lookup field).join

/-- A record that stands alone and has counters. -/
def RecordView.alone (whole : Nat) (told : List (String × Option Nat)) : RecordView :=
  ⟨none, whole, counters told⟩

/-- The record of a CPU, which is told apart by its place, counted from one. -/
def RecordView.ofCpu (times : CpuTimes) (place : Nat) : RecordView :=
  ⟨some ("cpu", .number (place + 1)), 0, times.told⟩

/-- The record of a device, which is told apart by its name. -/
def RecordView.ofDevice (device : String) (told : List (String × Option Nat)) : RecordView :=
  ⟨some ("device", .text device), 0, counters told⟩

/-- The records of an answer, in their order. -/
def records : (q : Quantity) → q.Value → List RecordView
  | .cpuTimes, times => times.zipIdx.map fun (r, place) => .ofCpu r place
  | .cpuShares, shares => shares.zipIdx.map fun (r, place) => .ofCpu r place
  | .memory, r => [.alone r.total r.told]
  | .swap, r => [.alone r.total r.told]
  | .disks, disks => disks.map fun r => .ofDevice r.device r.told
  | .interfaces, interfaces => interfaces.map fun r => .ofDevice r.interface r.told
  | .connections, _ => []
  | .processMemory, r => [.alone 0 r.told]
  | .processTimes, r => [⟨none, 0, r.told⟩]
  | .collections, numbers => [.alone 0 (generations numbers)]

/-! ## Rows -/

/-- Which field of a record a configured field stands for. -/
inductive FieldRule where
  /-- The field with its name. -/
  | same
  /-- The field with its name and a suffix. -/
  | suffixed (suffix : String)
  /-- One field for each of the two directions, and nothing else. -/
  | directed (receive transmit : String)
  /-- The field with its name, for every field of a record, whatever is
  configured. -/
  | unasked
deriving DecidableEq

/-- The field that a configured field stands for. -/
def FieldRule.target? : FieldRule → String → Option String
  | same, field => some field
  | suffixed suffix, field => some (field ++ suffix)
  | directed receive transmit, field =>
    if field = "receive" then some receive
    else if field = "transmit" then some transmit
    else none
  | unasked, field => some field

/-- The unit in which a value is told. -/
inductive Scale where
  /-- That of the record. -/
  | raw
  /-- A multiple of it. -/
  | per (divisor : Float)
  /-- The whole of the record; everything is nothing of an empty whole. -/
  | ofWhole

/-- A value in another unit. -/
def Scale.apply : Scale → Nat → Float → Float
  | raw, _, x => x
  | per divisor, _, x => x / divisor
  | ofWhole, whole, x => if whole = 0 then 0 else x / whole.toUInt64.toFloat

/-- A row of the table. -/
structure Row where
  /-- What the source is asked for. -/
  quantity : Quantity
  /-- Which field a configured field stands for. -/
  field : FieldRule
  /-- The unit of the values. -/
  scale : Scale
  /-- The key under which the configured field is shown. -/
  key : String

/-- The table. -/
def Metric.row? : Metric → Option Row
  | cpuTime => some ⟨.cpuTimes, .same, .raw, "state"⟩
  | cpuUtilization => some ⟨.cpuShares, .same, .per 100, "state"⟩
  | memoryUsage => some ⟨.memory, .same, .raw, "state"⟩
  | memoryUtilization => some ⟨.memory, .same, .ofWhole, "state"⟩
  | swapUsage => some ⟨.swap, .same, .raw, "state"⟩
  | swapUtilization => some ⟨.swap, .same, .ofWhole, "state"⟩
  | diskBytes => some ⟨.disks, .suffixed "_bytes", .raw, "direction"⟩
  | diskOperations => some ⟨.disks, .suffixed "_count", .raw, "direction"⟩
  | diskTime => some ⟨.disks, .suffixed "_time", .per 1000, "direction"⟩
  | diskMerged => some ⟨.disks, .suffixed "_merged_count", .raw, "direction"⟩
  | networkDropped => some ⟨.interfaces, .directed "dropin" "dropout", .raw, "direction"⟩
  | networkPackets =>
    some ⟨.interfaces, .directed "packets_recv" "packets_sent", .raw, "direction"⟩
  | networkErrors => some ⟨.interfaces, .directed "errin" "errout", .raw, "direction"⟩
  | networkBytes => some ⟨.interfaces, .directed "bytes_recv" "bytes_sent", .raw, "direction"⟩
  | networkConnections => none
  | runtimeMemory => some ⟨.processMemory, .same, .raw, "type"⟩
  | runtimeCpuTime => some ⟨.processTimes, .same, .raw, "type"⟩
  | runtimeGcCount => some ⟨.collections, .unasked, .raw, "count"⟩

namespace Row

/-- What is seen of the measurement of a field of a record, if there is one. -/
def entry? (row : Row) (base : LabelSet) (record : RecordView) (field : String) :
    Option (Float × (String → Option Shown)) :=
  ((row.field.target? field).bind record.value?).map fun x =>
    (row.scale.apply record.whole x,
      overridden base ((row.key, .text field) :: record.label?.toList))

/-- The fields that are measured of a record. -/
def fields (row : Row) (selected : List String) (record : RecordView) : List String :=
  if row.field = .unasked then record.fields.map Prod.fst else selected

/-- What is seen of the measurements of records. -/
def entries (row : Row) (base : LabelSet) (selected : List String)
    (records : List RecordView) : List (Float × (String → Option Shown)) :=
  records.flatMap fun record =>
    (row.fields selected record).filterMap (row.entry? base record)

end Row

/-! ## Measuring is filling in a row -/

section Shown

variable {base : LabelSet} {labels : List Label}

theorem shown_extend (h : (labels.map Prod.fst).Nodup) :
    (base.extend labels).shown
      = overridden base (labels.map fun label => (label.1, label.2.shown)) := by
  funext key
  unfold LabelSet.shown overridden LabelSet.shown
  rw [LabelSet.get?_extend base h, Option.map_or]
  congr 1
  -- what is left is the same look-up on both sides, whether keys repeat or not
  clear h
  induction labels with
  | nil => rfl
  | cons label labels ih =>
    rw [List.map_cons, List.lookup_cons, List.lookup_cons]
    cases key == label.1
    · exact ih
    · rfl

theorem shown_labelled (h : (labels.map Prod.fst).Nodup) (value : Option Float) :
    (Collect.labelled base labels value).map Measurement.shown
      = value.map fun x =>
          (x, overridden base (labels.map fun label => (label.1, label.2.shown))) := by
  unfold Collect.labelled
  rw [Option.map_map]
  refine congrArg (Option.map · value) (funext fun x => ?_)
  show (x, (base.extend labels).shown) = _
  rw [shown_extend h]

/-- Labels under different keys may be told in either order. -/
theorem overridden_swap {k l : String} (h : k ≠ l) (v w : Shown) :
    overridden base [(k, v), (l, w)] = overridden base [(l, w), (k, v)] := by
  funext key
  unfold overridden
  rw [List.lookup_cons, List.lookup_cons, List.lookup_cons, List.lookup_cons]
  by_cases hk : key = k
  · rw [beq_iff_eq.mpr hk, beq_false_of_ne fun hl => h (hk.symm.trans hl)]
  · rw [beq_false_of_ne hk]

end Shown

section Entries

open Collect

variable {row : Row} {base : LabelSet} {ρ σ : Type} {rs : List ρ}

/-- What is measured record by record and field by field fills in a row as
soon as each single measurement does. -/
theorem shown_expand {measurement? : ρ → σ → Option Measurement} (selected : List σ)
    (view : ρ → RecordView) (name : σ → String) (hrow : row.field ≠ .unasked)
    (h : ∀ r ∈ rs, ∀ s, (measurement? r s).map Measurement.shown
      = row.entry? base (view r) (name s)) :
    (expand rs selected measurement?).map Measurement.shown
      = row.entries base (selected.map name) (rs.map view) := by
  unfold expand Row.entries Row.fields
  rw [List.map_flatMap, List.flatMap_map]
  refine List.flatMap_congr fun r hr => ?_
  rw [if_neg hrow, List.map_filterMap, List.filterMap_map]
  exact List.filterMap_congr fun s _ => h r hr s

/-- The same where fields go by their names. -/
theorem shown_expand_fields {fields : List String}
    {measurement? : ρ → String → Option Measurement} (view : ρ → RecordView)
    (hrow : row.field ≠ .unasked)
    (h : ∀ r ∈ rs, ∀ field, (measurement? r field).map Measurement.shown
      = row.entry? base (view r) field) :
    (expand rs fields measurement?).map Measurement.shown
      = row.entries base fields (rs.map view) := by
  have hnames := shown_expand fields view id hrow h
  rw [List.map_id] at hnames
  exact hnames

variable {fields : List String}

/-- A record that stands alone. -/
theorem shown_single {quantity : Quantity} {scale : Scale} {key : String}
    {record : RecordView} {value? : String → Option Float} (hrecord : record.label? = none)
    (h : ∀ field, value? field = (record.value? field).map (scale.apply record.whole)) :
    (single base key value? fields).map Measurement.shown
      = Row.entries ⟨quantity, .same, scale, key⟩ base fields [record] := by
  refine shown_expand_fields (fun _ => record) FieldRule.noConfusion fun _ _ field => ?_
  rw [shown_labelled (by simp), h, Option.map_map]
  unfold Row.entry?
  rw [hrecord]
  rfl

section Counters

variable {field? : String → Option Nat} {told : List (String × Option Nat)}
  {label? : Option (String × Shown)} {whole : Nat}

/-- The value of a field that is a counter. -/
theorem value?_counters (hfield : ∀ name, field? name = (told.lookup name).join) (name : String) :
    (⟨label?, whole, counters told⟩ : RecordView).value? name
      = (field? name).map Counter.toFloat := by
  rw [RecordView.value?, lookup_counters, hfield]
  rfl

/-- Counters as they are. -/
theorem map_toFloat (hfield : ∀ name, field? name = (told.lookup name).join) (field : String) :
    (field? field).map Counter.toFloat
      = ((RecordView.alone whole told).value? field).map (Scale.raw.apply whole) := by
  rw [RecordView.alone, value?_counters hfield, Option.map_map]
  rfl

/-- The shares of a whole are its parts in the unit of the whole. -/
theorem map_ratio (hfield : ∀ name, field? name = (told.lookup name).join) (field : String) :
    ((field? field).map fun n => Counter.ratio n whole)
      = ((RecordView.alone whole told).value? field).map (Scale.ofWhole.apply whole) := by
  rw [RecordView.alone, value?_counters hfield, Option.map_map]
  rfl

end Counters

/-- A state of the CPU at a place. -/
theorem shown_cpu (value : Float → Float) (r : CpuTimes) (place : Nat) (state : String) :
    (labelled base (cpuLabels state place) ((r.field? state).map value)).map Measurement.shown
      = (r.told.lookup state).join.map fun x =>
          (value x, overridden base
            [("state", .text state), ("cpu", .number (Int64.ofNat (place + 1)).toInt)]) := by
  rw [shown_labelled (by simp [cpuLabels]), Option.map_map, r.field?_eq]
  rfl

/-- The CPUs, as long as their places fit 64 bits. -/
theorem shown_cpus {quantity : Quantity} {scale : Scale} {value : Float → Float}
    {times : List CpuTimes} (hvalue : value = scale.apply 0) (hplaces : times.length < 2 ^ 63) :
    (cpus base value times fields).map Measurement.shown
      = Row.entries ⟨quantity, .same, scale, "state"⟩ base fields
          (times.zipIdx.map fun (r, place) => .ofCpu r place) := by
  refine shown_expand_fields _ FieldRule.noConfusion fun (r, place) hr state => ?_
  have hplace : (Int64.ofNat (place + 1)).toInt = place + 1 := by
    have := List.snd_lt_of_mem_zipIdx hr
    rw [Int64.toInt_ofNat_of_lt (by omega)]
    rfl
  refine (shown_cpu value r place state).trans ?_
  rw [hvalue, hplace]
  rfl

/-- The disks, with their counters divided by a divisor. -/
theorem shown_diskTraffic {scale : Scale} {suffix : String} {divisor : Float}
    {disks : List DiskCounters} (hscale : ∀ x, x / divisor = scale.apply 0 x) :
    (diskTraffic base suffix divisor disks fields).map Measurement.shown
      = Row.entries ⟨.disks, .suffixed suffix, scale, "direction"⟩ base fields
          (disks.map fun r => .ofDevice r.device r.told) := by
  refine shown_expand_fields _ FieldRule.noConfusion fun r _ direction => ?_
  have hvalue : ∀ name, (RecordView.ofDevice r.device r.told).value? name
      = (r.field? name).map Counter.toFloat := value?_counters r.field?_eq
  show _ = ((RecordView.ofDevice r.device r.told).value? (direction ++ suffix)).map _
  rw [hvalue, shown_labelled (by simp), Option.map_map, Option.map_map]
  refine congrArg (Option.map · _) (funext fun n => ?_)
  exact Prod.ext (hscale _) (overridden_swap (show "device" ≠ "direction" by decide) _ _)

/-- The interfaces, with a counter for each direction. -/
theorem shown_interfaceTraffic {counter : Direction → String}
    {interfaces : List InterfaceCounters} {directions : List Direction} :
    (interfaceTraffic base counter interfaces directions).map Measurement.shown
      = Row.entries
          ⟨.interfaces, .directed (counter .receive) (counter .transmit), .raw, "direction"⟩
          base (directions.map Direction.name)
          (interfaces.map fun r => .ofDevice r.interface r.told) := by
  refine shown_expand _ _ _ FieldRule.noConfusion fun r _ direction => ?_
  have htarget : (FieldRule.directed (counter .receive) (counter .transmit)).target?
      direction.name = some (counter direction) := by
    cases direction <;> rfl
  have hvalue : ∀ name, (RecordView.ofDevice r.interface r.told).value? name
      = (r.field? name).map Counter.toFloat := value?_counters r.field?_eq
  unfold Row.entry?
  rw [htarget, Option.bind_some, hvalue, shown_labelled (by simp), Option.map_map,
    Option.map_map]
  refine congrArg (Option.map · _) (funext fun n => ?_)
  exact Prod.ext rfl (overridden_swap (show "device" ≠ "direction" by decide) _ _)

/-- The garbage collections, of every generation. -/
theorem shown_collections {numbers : List Nat} :
    (collections base numbers).map Measurement.shown
      = Row.entries ⟨.collections, .unasked, .raw, "count"⟩ base fields
          [.alone 0 (generations numbers)] := by
  have hnames : (counters (generations numbers)).map Prod.fst
      = numbers.zipIdx.map fun p => p.2.repr := by
    rw [counters, generations, List.map_map, List.map_map]
    rfl
  unfold Row.entries collections
  rw [List.flatMap_singleton, List.map_map]
  show _ = ((counters (generations numbers)).map Prod.fst).filterMap _
  rw [hnames, List.filterMap_map, ← List.filterMap_eq_map]
  refine List.filterMap_congr ?_
  rintro ⟨n, generation⟩ hn
  have hvalue : (generations numbers).lookup generation.repr = some (some n) :=
    lookup_of_nodup (nodup_generations numbers) (List.mem_map_of_mem hn)
  show some ((⟨Counter.toFloat n, base.extend [("count", .str generation.repr)]⟩ :
    Measurement).shown)
    = (((counters (generations numbers)).lookup generation.repr).join.map _)
  rw [lookup_counters, hvalue]
  show some (Counter.toFloat n, (base.extend [("count", .str generation.repr)]).shown) = _
  rw [shown_extend (by simp)]
  rfl

end Entries

/-! ## All metrics -/

section Metrics

open Collect

variable {reading : Reading} {config : Configuration} {base : LabelSet} {metric : Metric}
  {ms : List Measurement} {row : Row}

/-- **A row describes measurements**: what is seen of them are its entries,
for the configured fields and the records that the source tells. It has none
if a configured field stands for nothing. -/
def Row.Describes (row : Row) (reading : Reading) (config : Configuration) (base : LabelSet)
    (metric : Metric) (ms : List Measurement) : Prop :=
  ∃ (selected : List String) (answer : row.quantity.Value),
    (row.field ≠ .unasked → (config.selector? metric).map Selector.fields = some selected
      ∧ ∀ field ∈ selected, (row.field.target? field).isSome)
    ∧ reading row.quantity = .ok answer
    ∧ ms.map Measurement.shown = row.entries base selected (records row.quantity answer)

/-- **A row describes no more than one list of measurements.** -/
theorem Row.Describes.unique {ms' : List Measurement}
    (h : row.Describes reading config base metric ms)
    (h' : row.Describes reading config base metric ms') : ms' = ms := by
  obtain ⟨selected, answer, hselected, hanswer, hms⟩ := h
  obtain ⟨selected', answer', hselected', hanswer', hms'⟩ := h'
  obtain rfl := Except.ok.inj (hanswer.symm.trans hanswer')
  have hentries : row.entries base selected' (records row.quantity answer)
      = row.entries base selected (records row.quantity answer) := by
    by_cases hrow : row.field = .unasked
    · unfold Row.entries Row.fields
      rw [hrow]
      rfl
    · rw [Option.some.inj ((hselected' hrow).1.symm.trans (hselected hrow).1)]
  have hshown : ms'.map Measurement.shown = ms.map Measurement.shown :=
    hms'.trans (hentries.trans hms.symm)
  exact List.map_injective_iff.mpr Measurement.shown_injective hshown

/-- What is measured of configured fields and an answer is described by a
row as soon as that holds whatever the fields and the answer are. -/
theorem describes_of_measured {measured : List String → row.quantity.Value → List Measurement}
    (h : (do
      let fields ← fieldsOf config metric
      let answer ← ask reading row.quantity
      return measured fields answer : Measured) = .ok ms)
    (htarget : ∀ field, (row.field.target? field).isSome)
    (hshown : ∀ fields answer, reading row.quantity = .ok answer →
      (measured fields answer).map Measurement.shown
        = row.entries base fields (records row.quantity answer)) :
    row.Describes reading config base metric ms := by
  obtain ⟨fields, hfields, h⟩ := bind_eq_ok.mp h
  obtain ⟨answer, hanswer, h⟩ := bind_eq_ok.mp h
  have hread := ask_eq_ok.mp hanswer
  cases Except.ok.inj h
  exact ⟨fields, answer,
    fun _ => ⟨fieldsOf_eq_ok.mp hfields, fun field _ => htarget field⟩, hread,
    hshown fields answer hread⟩

theorem describes_disks {scale : Scale} {suffix : String} {divisor : Float}
    (hscale : ∀ x, x / divisor = scale.apply 0 x)
    (h : disks reading config base metric suffix divisor = .ok ms) :
    Row.Describes ⟨.disks, .suffixed suffix, scale, "direction"⟩ reading config base metric
      ms :=
  describes_of_measured h (fun _ => rfl) fun _ _ _ => shown_diskTraffic hscale

/-- The fields of which all are directions are the names of these. -/
theorem eq_names_of_directions {fields : List String} {directions : List Direction}
    (h : fields.mapM (directionOf metric) = .ok directions) :
    fields = directions.map Direction.name := by
  induction mapM_eq_ok.mp h with
  | nil => rfl
  | @cons field direction fields directions hfield hrest ih =>
    have hname : Direction.ofName? field = some direction := by
      unfold directionOf at hfield
      cases hd : Direction.ofName? field with
      | none => rw [hd] at hfield; cases hfield
      | some d => rw [hd] at hfield; exact congrArg some (Except.ok.inj hfield)
    rw [List.map_cons, Direction.name_of_ofName? hname, ← ih (mapM_eq_ok.mpr hrest)]

theorem describes_interfaces {counter : Direction → String}
    (h : interfaces reading config base metric counter = .ok ms) :
    Row.Describes ⟨.interfaces, .directed (counter .receive) (counter .transmit), .raw,
      "direction"⟩ reading config base metric ms := by
  obtain ⟨fields, hfields, h⟩ := bind_eq_ok.mp h
  obtain ⟨directions, hdirections, h⟩ := bind_eq_ok.mp h
  obtain ⟨answer, hanswer, h⟩ := bind_eq_ok.mp h
  have hnames := eq_names_of_directions (Failure.lift_eq_ok.mp hdirections)
  cases Except.ok.inj h
  have hknown : ∀ field ∈ directions.map Direction.name,
      ((FieldRule.directed (counter .receive) (counter .transmit)).target? field).isSome :=
    List.forall_mem_map.mpr fun direction _ => by cases direction <;> rfl
  exact ⟨directions.map Direction.name, answer,
    fun _ => ⟨hnames ▸ fieldsOf_eq_ok.mp hfields, hknown⟩, ask_eq_ok.mp hanswer,
    shown_interfaceTraffic⟩

/-- Configured fields of which all stand for something are measured as soon
as the source answers. -/
theorem exists_interfaces {counter : Direction → String} {receive transmit : String}
    {fields : List String} {answer : List InterfaceCounters}
    (hfields : config.fields? metric = some fields)
    (htarget : ∀ field ∈ fields,
      ((FieldRule.directed receive transmit).target? field).isSome)
    (hanswer : reading .interfaces = .ok answer) :
    ∃ ms, interfaces reading config base metric counter = .ok ms := by
  have hdirection : ∀ field ∈ fields,
      directionOf metric field = .ok ((Direction.ofName? field).getD .receive) := by
    intro field hfield
    have hknown : field = "receive" ∨ field = "transmit" := by
      by_contra hother
      obtain ⟨hreceive, htransmit⟩ := not_or.mp hother
      have hsome := htarget field hfield
      simp only [FieldRule.target?, if_neg hreceive, if_neg htransmit] at hsome
      cases hsome
    rcases hknown with rfl | rfl
    · rfl
    · rfl
  unfold interfaces
  rw [fieldsOf_eq_ok.mpr hfields, ok_bind, mapM_eq_ok_map hdirection, Failure.lift_ok, ok_bind,
    ask_eq_ok.mpr hanswer]
  exact ⟨_, rfl⟩

theorem exists_measured {quantity : Quantity}
    {measured : List String → quantity.Value → List Measurement} {fields : List String}
    {answer : quantity.Value} (hfields : config.fields? metric = some fields)
    (hanswer : reading quantity = .ok answer) :
    ∃ ms, (do
      let fields ← fieldsOf config metric
      let answer ← ask reading quantity
      return measured fields answer : Measured) = .ok ms := by
  rw [fieldsOf_eq_ok.mpr hfields, ok_bind, ask_eq_ok.mpr hanswer]
  exact ⟨_, rfl⟩

/-- **What a row describes can be measured.** -/
theorem Row.Describes.exists_measure (h : row.Describes reading config base metric ms)
    (hrow : metric.row? = some row) : ∃ ms', measure reading config base metric = .ok ms' := by
  obtain ⟨selected, answer, hselected, hanswer, -⟩ := h
  cases metric with
  | networkConnections => cases hrow
  | runtimeGcCount =>
    cases hrow
    unfold measure
    rw [ask_eq_ok.mpr hanswer]
    exact ⟨_, rfl⟩
  | networkDropped | networkPackets | networkErrors | networkBytes =>
    cases hrow
    obtain ⟨hfields, htarget⟩ := hselected FieldRule.noConfusion
    exact exists_interfaces hfields htarget hanswer
  | _ =>
    cases hrow
    exact exists_measured (hselected FieldRule.noConfusion).1 hanswer

/-- What is measured is described by the row of the metric. -/
theorem exists_row_of_measure (hmetric : metric ≠ .networkConnections)
    (hcpus : ∀ times : List CpuTimes,
      metric = .cpuTime ∧ reading .cpuTimes = .ok times
        ∨ metric = .cpuUtilization ∧ reading .cpuShares = .ok times → times.length < 2 ^ 63)
    (h : measure reading config base metric = .ok ms) :
    ∃ row, metric.row? = some row ∧ row.Describes reading config base metric ms := by
  cases metric with
  | cpuTime =>
    exact ⟨_, rfl, describes_of_measured h (fun _ => rfl) fun fields times htimes =>
      shown_cpus rfl (hcpus times (.inl ⟨rfl, htimes⟩))⟩
  | cpuUtilization =>
    exact ⟨_, rfl, describes_of_measured h (fun _ => rfl) fun fields shares hshares =>
      shown_cpus rfl (hcpus shares (.inr ⟨rfl, hshares⟩))⟩
  | memoryUsage =>
    exact ⟨_, rfl, describes_of_measured h (fun _ => rfl) fun fields memory _ =>
      shown_single rfl (map_toFloat memory.field?_eq)⟩
  | memoryUtilization =>
    exact ⟨_, rfl, describes_of_measured h (fun _ => rfl) fun fields memory _ =>
      shown_single rfl (map_ratio memory.field?_eq)⟩
  | swapUsage =>
    exact ⟨_, rfl, describes_of_measured h (fun _ => rfl) fun fields swap _ =>
      shown_single rfl (map_toFloat swap.field?_eq)⟩
  | swapUtilization =>
    exact ⟨_, rfl, describes_of_measured h (fun _ => rfl) fun fields swap _ =>
      shown_single rfl (map_ratio swap.field?_eq)⟩
  | diskBytes => exact ⟨_, rfl, describes_disks Binary64.div_one h⟩
  | diskOperations => exact ⟨_, rfl, describes_disks Binary64.div_one h⟩
  | diskTime => exact ⟨_, rfl, describes_disks (fun _ => rfl) h⟩
  | diskMerged => exact ⟨_, rfl, describes_disks Binary64.div_one h⟩
  | networkDropped => exact ⟨_, rfl, describes_interfaces h⟩
  | networkPackets => exact ⟨_, rfl, describes_interfaces h⟩
  | networkErrors => exact ⟨_, rfl, describes_interfaces h⟩
  | networkBytes => exact ⟨_, rfl, describes_interfaces h⟩
  | networkConnections => exact absurd rfl hmetric
  | runtimeMemory =>
    exact ⟨_, rfl, describes_of_measured h (fun _ => rfl) fun fields memory _ =>
      shown_single rfl (map_toFloat memory.field?_eq)⟩
  | runtimeCpuTime =>
    exact ⟨_, rfl, describes_of_measured h (fun _ => rfl) fun fields times _ =>
      shown_single rfl fun field => (times.field?_eq field).trans Option.map_id'.symm⟩
  | runtimeGcCount =>
    obtain ⟨numbers, hnumbers, h⟩ := bind_eq_ok.mp h
    cases Except.ok.inj h
    exact ⟨_, rfl, [], numbers, fun h => absurd rfl h, ask_eq_ok.mp hnumbers,
      shown_collections⟩

/-- **Every metric is measured as its row of the table says**: it is measured
iff the row describes something, and as that. -/
theorem measure_eq_ok_iff_row (hmetric : metric ≠ .networkConnections)
    (hcpus : ∀ times : List CpuTimes,
      metric = .cpuTime ∧ reading .cpuTimes = .ok times
        ∨ metric = .cpuUtilization ∧ reading .cpuShares = .ok times → times.length < 2 ^ 63) :
    measure reading config base metric = .ok ms ↔
      ∃ row, metric.row? = some row ∧ row.Describes reading config base metric ms := by
  constructor
  · exact exists_row_of_measure hmetric hcpus
  · rintro ⟨row, hrow, hdescribes⟩
    obtain ⟨ms', hmeasured⟩ := hdescribes.exists_measure hrow
    obtain ⟨row', hrow', hdescribes'⟩ := exists_row_of_measure hmetric hcpus hmeasured
    obtain rfl := Option.some.inj (hrow.symm.trans hrow')
    rw [hmeasured, hdescribes.unique hdescribes']

/-- A reading of two CPUs, of which the first one tells nothing, of a disk and
of an interface. -/
def smallHost : Reading
  | .cpuShares =>
    .ok [⟨fun _ => none⟩, ⟨fun state => if state = .user then some 25 else none⟩]
  | .disks => .ok [⟨"sda", some 1, some 2, some 3, some 4, some 1500, none, some 7, some 8, some 9⟩]
  | .interfaces => .ok [⟨"lo", some 1, some 2, some 3, some 4, some 5, some 6, some 7, some 8⟩]
  | _ => .error (.abort .sumOverflow)

/-- A configuration with fields that are not told. -/
def smallConfiguration : Configuration :=
  .setAll .empty [(.cpuUtilization, ["idle", "user"]), (.diskTime, ["write", "read", "busy"]),
    (.networkDropped, ["transmit", "receive"])]

/-- Base labels under keys of two of the metrics. -/
def smallBase : LabelSet := .ofList [("cpu", .str "all"), ("device", .str "any")]

/-- The second CPU is shown under its place, in the place of a base label, and
the state that it does not tell is left out. The time of a disk is told in
seconds, and the drops of an interface by their directions. -/
theorem measure_eq_ok_iff_row_small_host :
    (∃ row, Metric.row? .cpuUtilization = some row
      ∧ row.Describes smallHost smallConfiguration smallBase .cpuUtilization [⟨25 / 100,
          .ofList [("cpu", .int 2), ("device", .str "any"), ("state", .str "user")]⟩])
    ∧ (∃ row, Metric.row? .diskTime = some row
      ∧ row.Describes smallHost smallConfiguration smallBase .diskTime [
        ⟨1500 / 1000, .ofList
          [("cpu", .str "all"), ("device", .str "sda"), ("direction", .str "read")]⟩,
        ⟨9 / 1000, .ofList
          [("cpu", .str "all"), ("device", .str "sda"), ("direction", .str "busy")]⟩])
    ∧ ∃ row, Metric.row? .networkDropped = some row
      ∧ row.Describes smallHost smallConfiguration smallBase .networkDropped [
        ⟨8, .ofList
          [("cpu", .str "all"), ("device", .str "lo"), ("direction", .str "transmit")]⟩,
        ⟨7, .ofList
          [("cpu", .str "all"), ("device", .str "lo"), ("direction", .str "receive")]⟩] := by
  have hcpus : ∀ (metric : Metric) (times : List CpuTimes),
      metric = .cpuTime ∧ smallHost .cpuTimes = .ok times
        ∨ metric = .cpuUtilization ∧ smallHost .cpuShares = .ok times →
      times.length < 2 ^ 63 := by
    rintro metric times (⟨-, htimes⟩ | ⟨-, htimes⟩)
    · cases htimes
    · cases htimes
      decide
  refine ⟨?_, ?_, ?_⟩
  · exact (measure_eq_ok_iff_row (by decide) (hcpus _)).mp rfl
  · exact (measure_eq_ok_iff_row (by decide) (hcpus _)).mp rfl
  · exact (measure_eq_ok_iff_row (by decide) (hcpus _)).mp rfl

end Metrics

end HostMetrics
