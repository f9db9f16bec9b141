import HostMetrics.Proofs.Connections
import HostMetrics.Proofs.MetricTable

/-!
# Measurements are told apart by their labels

The measurements of one metric have pairwise different label sets, so an
exporter that keeps one time series per label set loses none of them. For
the connections this is what counting them is about. For every other metric
it follows from its row of the table: of two measurements of one record the
configured field differs, and it is shown under the key of the row; of two
records something else differs, which is shown under a key of its own
(`Row.pairwise_entries`). Base labels do not come into it, since both keys
override them.

Three things have to hold of what is measured. A selector has each field
once, which its type says, however often the field was configured. Records
have to be told apart by what they show (`RecordView.Apart`), which is a
matter of the devices' names, and of the numbering for CPUs. And the key of
a row must not be the one that records are told apart by
(`Metric.key_ne_of_row?`).
-/

namespace HostMetrics

/-! ## Records that are told apart -/

/-- **Records that are told apart** by what they show under one key. -/
def RecordView.Apart (key : String) (r r' : RecordView) : Prop :=
  ∃ v v', r.label? = some (key, v) ∧ r'.label? = some (key, v') ∧ v ≠ v'

/-- The key under which the records of a quantity are told apart. Where there
is one record at most, it is any. -/
def Quantity.key : Quantity → String
  | cpuTimes | cpuShares => "cpu"
  | _ => "device"

/-- CPUs are told apart by their places. -/
theorem pairwise_apart_cpus (times : List CpuTimes) :
    (times.zipIdx.map fun (r, place) => RecordView.ofCpu r place).Pairwise
      (RecordView.Apart "cpu") := by
  have hplaces : (times.zipIdx.map Prod.snd).Nodup := by
    rw [List.zipIdx_map_snd]
    exact List.nodup_range'
  refine List.pairwise_map.mpr ((List.pairwise_map.mp hplaces).imp fun {a b} hne => ?_)
  refine ⟨_, _, rfl, rfl, fun h => hne ?_⟩
  have := Shown.number.inj h
  omega

/-- Devices are told apart by their names. -/
theorem pairwise_apart_devices {ρ : Type} {devices : List ρ} {name : ρ → String}
    (h : (devices.map name).Nodup) (told : ρ → List (String × Option Nat)) :
    (devices.map fun r => RecordView.ofDevice (name r) (told r)).Pairwise
      (RecordView.Apart "device") := by
  refine List.pairwise_map.mpr ((List.pairwise_map.mp h).imp fun {a b} hne => ?_)
  exact ⟨_, _, rfl, rfl, fun heq => hne (Shown.text.inj heq)⟩

section Table

variable {row : Row} {base : LabelSet} {selected : List String}

/-- What is shown of a field of a record is shown under the key of the row. -/
theorem Row.shown_key {record : RecordView} {field : String}
    {entry : Float × (String → Option Shown)} (h : row.entry? base record field = some entry) :
    entry.2 row.key = some (.text field) := by
  obtain ⟨x, -, rfl⟩ := Option.map_eq_some_iff.mp h
  show overridden base ((row.key, .text field) :: record.label?.toList) row.key = _
  rw [overridden, List.lookup_cons, beq_self_eq_true]
  rfl

/-- What a record shows of itself is seen in all of its entries. -/
theorem Row.shown_label {record : RecordView} {field key : String} {v : Shown}
    {entry : Float × (String → Option Shown)} (hkey : key ≠ row.key)
    (hlabel : record.label? = some (key, v)) (h : row.entry? base record field = some entry) :
    entry.2 key = some v := by
  obtain ⟨x, -, rfl⟩ := Option.map_eq_some_iff.mp h
  show overridden base ((row.key, .text field) :: record.label?.toList) key = _
  rw [hlabel, overridden, List.lookup_cons, beq_false_of_ne hkey]
  show ((List.lookup key [(key, v)]).or _) = _
  rw [List.lookup_cons, beq_self_eq_true]
  rfl

/-- **Entries of a row are told apart** by what they show, as long as the
records and the fields of each record are. -/
theorem Row.pairwise_entries {records : List RecordView} {key : String} (hkey : key ≠ row.key)
    (hfields : ∀ record ∈ records, (row.fields selected record).Nodup)
    (hrecords : records.Pairwise (RecordView.Apart key)) :
    (row.entries base selected records).Pairwise fun e e' => e.2 ≠ e'.2 := by
  refine List.pairwise_flatMap.mpr ⟨fun record hrecord => ?_, hrecords.imp ?_⟩
  · refine List.pairwise_filterMap.mpr ((hfields record hrecord).imp ?_)
    intro field field' hne e he e' he' heq
    have hshown := congrFun heq row.key
    rw [shown_key he, shown_key he'] at hshown
    exact hne (Shown.text.inj (Option.some.inj hshown))
  · rintro record record' ⟨v, v', hv, hv', hne⟩ e he e' he' heq
    obtain ⟨field, -, he⟩ := List.mem_filterMap.mp he
    obtain ⟨field', -, he'⟩ := List.mem_filterMap.mp he'
    have hshown := congrFun heq key
    rw [shown_label hkey hv he, shown_label hkey hv' he'] at hshown
    exact hne (Option.some.inj hshown)

end Table

/-- No row shows its fields under the key that its records are told apart
by. -/
theorem Metric.key_ne_of_row? {metric : Metric} {row : Row} (h : metric.row? = some row) :
    row.quantity.key ≠ row.key := by
  cases metric with
  | networkConnections => cases h
  | _ =>
    cases h
    decide

/-! ## All metrics -/

section Metrics

open Collect

variable {reading : Reading} {config : Configuration} {base : LabelSet} {metric : Metric}
  {ms : List Measurement} {row : Row}

/-- The records of an answer are told apart as soon as its devices have
different names. -/
theorem pairwise_apart_records {q : Quantity} {answer : q.Value} (hanswer : reading q = .ok answer)
    (hdisks : ∀ disks, reading .disks = .ok disks → (disks.map DiskCounters.device).Nodup)
    (hinterfaces : ∀ interfaces, reading .interfaces = .ok interfaces →
      (interfaces.map InterfaceCounters.interface).Nodup) :
    (records q answer).Pairwise (RecordView.Apart q.key) := by
  cases q with
  | cpuTimes => exact pairwise_apart_cpus answer
  | cpuShares => exact pairwise_apart_cpus answer
  | disks => exact pairwise_apart_devices (hdisks answer hanswer) DiskCounters.told
  | interfaces =>
    exact pairwise_apart_devices (hinterfaces answer hanswer) InterfaceCounters.told
  | connections => exact List.Pairwise.nil
  | _ => exact List.pairwise_singleton _ _

/-- No record has two fields of one name. -/
theorem nodup_fields_of_mem_records {q : Quantity} {answer : q.Value} {record : RecordView}
    (h : record ∈ records q answer) : (record.fields.map Prod.fst).Nodup := by
  have hcounters (told : List (String × Option Nat)) :
      (counters told).map Prod.fst = told.map Prod.fst := by
    rw [counters, List.map_map]
    rfl
  cases q with
  | collections =>
    obtain rfl := List.mem_singleton.mp h
    exact hcounters (generations answer) ▸ nodup_generations answer
  | cpuTimes | cpuShares =>
    obtain ⟨r, -, rfl⟩ := List.mem_map.mp h
    simp [RecordView.ofCpu, CpuTimes.told]
  | disks =>
    obtain ⟨r, -, rfl⟩ := List.mem_map.mp h
    simp [RecordView.ofDevice, hcounters, DiskCounters.told]
  | interfaces =>
    obtain ⟨r, -, rfl⟩ := List.mem_map.mp h
    simp [RecordView.ofDevice, hcounters, InterfaceCounters.told]
  | connections => cases h
  | memory | swap | processMemory | processTimes =>
    obtain rfl := List.mem_singleton.mp h
    simp [RecordView.alone, hcounters, MemoryUse.told, SwapUse.told, ProcessMemory.told,
      ProcessTimes.told]

/-- No field is measured twice of a record. -/
theorem Row.nodup_fields {selected : List String} {q : Quantity} {answer : q.Value}
    (hselected : row.field ≠ .unasked → config.fields? metric = some selected) :
    ∀ record ∈ records q answer, (row.fields selected record).Nodup := by
  intro record hrecord
  unfold Row.fields
  split
  next => exact nodup_fields_of_mem_records hrecord
  next hrow =>
    obtain ⟨selector, -, rfl⟩ := Option.map_eq_some_iff.mp (hselected hrow)
    exact selector.nodup

/-- What a row describes is told apart by its labels. -/
theorem Row.Describes.nodup_labels (h : row.Describes reading config base metric ms)
    (hrow : metric.row? = some row)
    (hdisks : ∀ disks, reading .disks = .ok disks → (disks.map DiskCounters.device).Nodup)
    (hinterfaces : ∀ interfaces, reading .interfaces = .ok interfaces →
      (interfaces.map InterfaceCounters.interface).Nodup) :
    (ms.map Measurement.labels).Nodup := by
  obtain ⟨selected, answer, hselected, hanswer, hms⟩ := h
  have hentries : (row.entries base selected (records row.quantity answer)).Pairwise
      fun e e' => e.2 ≠ e'.2 :=
    Row.pairwise_entries (Metric.key_ne_of_row? hrow)
      (Row.nodup_fields fun hfield => (hselected hfield).1)
      (pairwise_apart_records hanswer hdisks hinterfaces)
  rw [← hms] at hentries
  refine List.pairwise_map.mpr ((List.pairwise_map.mp hentries).imp fun hne heq => hne ?_)
  exact congrArg LabelSet.shown heq

/-- Groups of connections are told apart by their labels. -/
theorem nodup_labels_of_connections {digest : LabelSet → UInt64}
    (h : connectionsBy digest reading config base = .ok ms) :
    (ms.map Measurement.labels).Nodup := by
  obtain ⟨fields, -, h⟩ := bind_eq_ok.mp h
  obtain ⟨connections, -, h⟩ := bind_eq_ok.mp h
  obtain ⟨groups, hgroups, h⟩ := bind_eq_ok.mp h
  obtain ⟨labels, -, hgroups⟩ := bind_eq_ok.mp (Failure.lift_eq_ok.mp hgroups)
  cases Except.ok.inj h
  cases Except.ok.inj hgroups
  unfold counts
  rw [List.map_map, (Tally.ofList_spec digest labels).2]
  exact Tally.nodup_occurrences labels

/-- **No two measurements of a metric have the same labels**, provided that
no two disks and no two interfaces have the same name. -/
theorem nodup_labels_of_measure
    (hdisks : ∀ disks, reading .disks = .ok disks → (disks.map DiskCounters.device).Nodup)
    (hinterfaces : ∀ interfaces, reading .interfaces = .ok interfaces →
      (interfaces.map InterfaceCounters.interface).Nodup)
    (hcpus : ∀ times : List CpuTimes,
      reading .cpuTimes = .ok times ∨ reading .cpuShares = .ok times → times.length < 2 ^ 63)
    (h : measure reading config base metric = .ok ms) : (ms.map Measurement.labels).Nodup := by
  by_cases hmetric : metric = .networkConnections
  · subst hmetric
    exact nodup_labels_of_connections h
  · obtain ⟨row, hrow, hdescribes⟩ := exists_row_of_measure hmetric
      (fun times htimes => hcpus times (htimes.imp And.right And.right)) h
    exact hdescribes.nodup_labels hrow hdisks hinterfaces

/-- A disk of which the bytes are told and nothing else. -/
def diskOfBytes (device : String) (read write : Nat) : DiskCounters :=
  ⟨device, some read, some write, none, none, none, none, none, none, none⟩

/-- A reading of two disks that have read and written the same. -/
def twoDisks : Reading
  | .disks => .ok [diskOfBytes "sda" 512 512, diskOfBytes "sdb" 512 512]
  | _ => .error (.abort .sumOverflow)

/-- A configuration in which a direction is repeated. -/
def readTwice : Configuration := .set .empty .diskBytes ["read", "write", "read"]

/-- Base labels under the keys of a disk metric. -/
def deviceBase : LabelSet := .ofList [("device", .str "all"), ("direction", .str "both")]

/-- A direction that is configured twice and base labels under the keys of
the metric give no two measurements the same labels. -/
theorem nodup_labels_of_measure_repeated_field :
    ∃ ms, measure twoDisks readTwice deviceBase .diskBytes = .ok ms
      ∧ ms.length = 4 ∧ (ms.map Measurement.labels).Nodup := by
  have hdisks : ∀ disks, twoDisks .disks = .ok disks → (disks.map DiskCounters.device).Nodup := by
    rintro disks hread
    cases hread
    decide
  have hinterfaces : ∀ interfaces, twoDisks .interfaces = .ok interfaces →
      (interfaces.map InterfaceCounters.interface).Nodup := by
    rintro interfaces hread
    cases hread
  have hcpus : ∀ times : List CpuTimes,
      twoDisks .cpuTimes = .ok times ∨ twoDisks .cpuShares = .ok times →
      times.length < 2 ^ 63 := by
    rintro times (hread | hread)
    · cases hread
    · cases hread
  have hmeasured : measure twoDisks readTwice deviceBase .diskBytes
      = .ok (diskTraffic deviceBase "_bytes" 1
          [diskOfBytes "sda" 512 512, diskOfBytes "sdb" 512 512] ["read", "write"]) := rfl
  exact ⟨_, hmeasured, rfl, nodup_labels_of_measure hdisks hinterfaces hcpus hmeasured⟩

end Metrics

end HostMetrics
