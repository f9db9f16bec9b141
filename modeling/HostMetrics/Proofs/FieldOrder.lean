import HostMetrics.Collect.Basic
import HostMetrics.Proofs.Connections
import HostMetrics.Proofs.Sequence

/-!
# The order of the configured fields

A selector lists the fields of a metric in an order. This module says what
that order is good for: it is the order of the measurements of one record,
and nothing else depends on it. Configurations that list the same fields in
different orders measure the same, up to the order (`measure_reordered`),
and one measures exactly if the other does, since what can be wrong with a
field is wrong with it wherever it stands.

For connections the order does not even show. A field is a label there, a
label is set under the name of its field, and labels under different names
may be set in either order (`LabelSet.extend_perm`). So a connection has the
same labels for all orders (`groupOf_reordered`), and everything behind the
labels is the same. Garbage collections are not configured by fields.
-/

namespace HostMetrics

namespace Collect

variable {reading : Reading} {config config' : Configuration} {base : LabelSet}
  {metric : Metric} {ms : List Measurement} {fields fields' : List String}

/-- **Configurations that list the same fields of a metric**, in any order, or
both of them none. -/
def SameFields (config config' : Configuration) (metric : Metric) : Prop :=
  Option.Rel List.Perm (config.fields? metric) (config'.fields? metric)

theorem SameFields.symm (h : SameFields config config' metric) :
    SameFields config' config metric := by
  unfold SameFields at h ⊢
  generalize config.fields? metric = own, config'.fields? metric = other at h ⊢
  cases h with
  | none => exact .none
  | some hperm => exact .some hperm.symm

theorem SameFields.exists_fieldsOf (h : SameFields config config' metric)
    (hfields : fieldsOf config metric = .ok fields) :
    ∃ fields', fieldsOf config' metric = .ok fields' ∧ fields.Perm fields' := by
  unfold SameFields at h
  rw [fieldsOf_eq_ok.mp hfields] at h
  generalize hother : config'.fields? metric = other at h
  cases h with
  | some hperm => exact ⟨_, fieldsOf_eq_ok.mpr hother, hperm⟩

/-! ## Measurements of single records -/

/-- Fields in another order give the measurements of each record in another
order. -/
theorem expand_perm {ρ σ : Type} (records : List ρ) {selected selected' : List σ}
    (h : selected.Perm selected') (measurement? : ρ → σ → Option Measurement) :
    (expand records selected measurement?).Perm (expand records selected' measurement?) :=
  List.Perm.flatMap_left _ fun record _ => h.filterMap (measurement? record)

/-- What is measured of the fields and an answer is measured in another order
if the fields are. -/
theorem measured_reordered {q : Quantity} {told : List String → q.Value → List Measurement}
    (htold : ∀ fields fields' answer, fields.Perm fields' →
      (told fields answer).Perm (told fields' answer))
    (hsame : SameFields config config' metric)
    (h : (do
      let fields ← fieldsOf config metric
      let answer ← ask reading q
      return told fields answer : Measured) = .ok ms) :
    ∃ ms', (do
      let fields ← fieldsOf config' metric
      let answer ← ask reading q
      return told fields answer : Measured) = .ok ms' ∧ ms.Perm ms' := by
  obtain ⟨fields, hfields, h⟩ := bind_eq_ok.mp h
  obtain ⟨answer, hanswer, h⟩ := bind_eq_ok.mp h
  cases Except.ok.inj h
  obtain ⟨fields', hfields', hperm⟩ := hsame.exists_fieldsOf hfields
  rw [hfields', ok_bind, hanswer]
  exact ⟨_, rfl, htold fields fields' answer hperm⟩

/-- Every direction is checked, in whatever order they stand. -/
theorem interfaces_reordered {counter : Direction → String}
    (hsame : SameFields config config' metric)
    (h : interfaces reading config base metric counter = .ok ms) :
    ∃ ms', interfaces reading config' base metric counter = .ok ms' ∧ ms.Perm ms' := by
  obtain ⟨fields, hfields, h⟩ := bind_eq_ok.mp h
  obtain ⟨directions, hdirections, h⟩ := bind_eq_ok.mp h
  obtain ⟨answer, hanswer, h⟩ := bind_eq_ok.mp h
  cases Except.ok.inj h
  obtain ⟨fields', hfields', hperm⟩ := hsame.exists_fieldsOf hfields
  obtain ⟨directions', hdirections', hperm⟩ :=
    exists_mapM_perm hperm (Failure.lift_eq_ok.mp hdirections)
  unfold interfaces
  rw [hfields', ok_bind, hdirections', Failure.lift_ok, ok_bind, hanswer]
  exact ⟨_, rfl, expand_perm answer hperm _⟩

/-! ## Connections -/

/-- The label under the name of a field is the value of that field. -/
theorem eq_label_of_fieldLabel? {c : Connection} {field : String} {label : Option Label}
    (h : fieldLabel? c field = .ok label) :
    label = (c.field? field).join.map fun value => (field, value) := by
  unfold fieldLabel? at h
  cases hvalue : c.field? field with
  | none =>
    rw [hvalue] at h
    cases h
  | some value =>
    rw [hvalue] at h
    exact (Except.ok.inj h).symm

/-- The labels of fields are known from the names they are under. -/
theorem eq_of_key_eq {c : Connection} {labels : List (Option Label)}
    (h : fields.mapM (fieldLabel? c) = .ok labels) :
    ∀ a ∈ labels.filterMap id, ∀ b ∈ labels.filterMap id, a.1 = b.1 → a = b := by
  have hvalue : ∀ label ∈ labels.filterMap id, (c.field? label.1).join = some label.2 := by
    intro label hlabel
    obtain ⟨_, hmem, rfl⟩ := List.mem_filterMap.mp hlabel
    obtain ⟨field, -, hfield⟩ := exists_of_mem_mapM h hmem
    obtain ⟨value, hvalue, rfl⟩ :=
      Option.map_eq_some_iff.mp (eq_label_of_fieldLabel? hfield).symm
    exact hvalue
  intro a ha b hb hkey
  have := hvalue a ha
  rw [hkey, hvalue b hb] at this
  exact Prod.ext hkey (Option.some.inj this).symm

/-- **A connection has the same labels for all orders of the fields.** -/
theorem groupOf_reordered {c : Connection} {labels : LabelSet} (hperm : fields.Perm fields')
    (h : groupOf base fields c = .ok labels) : groupOf base fields' c = .ok labels := by
  obtain ⟨protocol, hprotocol, h⟩ := bind_eq_ok.mp h
  obtain ⟨values, hvalues, h⟩ := bind_eq_ok.mp h
  obtain ⟨values', hvalues', hperm'⟩ := exists_mapM_perm hperm hvalues
  cases Except.ok.inj h
  unfold groupOf
  rw [hprotocol, ok_bind, hvalues', ok_bind]
  refine congrArg Except.ok ?_
  rw [LabelSet.extend_cons, LabelSet.extend_cons, LabelSet.extend_cons, LabelSet.extend_cons]
  exact (LabelSet.extend_perm _ (hperm'.filterMap id) (eq_of_key_eq hvalues)).symm

/-- Connections are measured alike for all orders of the fields. -/
theorem connectionsBy_reordered {digest : LabelSet → UInt64}
    (hsame : SameFields config config' .networkConnections)
    (h : connectionsBy digest reading config base = .ok ms) :
    connectionsBy digest reading config' base = .ok ms := by
  obtain ⟨fields, hfields, h⟩ := bind_eq_ok.mp h
  obtain ⟨connections, hconnections, h⟩ := bind_eq_ok.mp h
  obtain ⟨groups, hgroups, h⟩ := bind_eq_ok.mp h
  obtain ⟨labels, hlabels, hgroups⟩ := bind_eq_ok.mp (Failure.lift_eq_ok.mp hgroups)
  obtain ⟨fields', hfields', hperm⟩ := hsame.exists_fieldsOf hfields
  have hlabels' : connections.mapM (groupOf base fields') = .ok labels :=
    mapM_eq_ok.mpr ((mapM_eq_ok.mp hlabels).imp fun _ _ => groupOf_reordered hperm)
  have hgroups' : Collect.groups digest base fields' connections = .ok groups := by
    unfold Collect.groups
    rw [hlabels', ok_bind]
    exact hgroups
  unfold connectionsBy
  rw [hfields', ok_bind, hconnections, ok_bind, hgroups']
  exact h

end Collect

open Collect

/-! ## All metrics -/

section Metrics

variable {reading : Reading} {config config' : Configuration} {base : LabelSet}
  {metric : Metric} {ms ms' : List Measurement}

/-- **What is measured in one order is measured in every other.** -/
theorem exists_measure_reordered (hsame : SameFields config config' metric)
    (h : measure reading config base metric = .ok ms) :
    ∃ ms', measure reading config' base metric = .ok ms' ∧ ms.Perm ms' := by
  cases metric with
  | networkConnections => exact ⟨ms, connectionsBy_reordered hsame h, .refl ms⟩
  | runtimeGcCount => exact ⟨ms, h, .refl ms⟩
  | networkDropped | networkPackets | networkErrors | networkBytes =>
    exact interfaces_reordered hsame h
  | _ => exact measured_reordered (fun _ _ _ hperm => expand_perm _ hperm _) hsame h

/-- Connections and garbage collections show no order of the fields. -/
theorem measure_reordered_of_unordered (hsame : SameFields config config' metric)
    (hmetric : metric = .networkConnections ∨ metric = .runtimeGcCount)
    (h : measure reading config base metric = .ok ms) :
    measure reading config' base metric = .ok ms := by
  rcases hmetric with rfl | rfl
  · exact connectionsBy_reordered hsame h
  · exact h

/-- **The order of the fields is the order of the measurements and nothing
else.** -/
theorem measure_reordered (hsame : SameFields config config' metric) :
    ((∃ ms, measure reading config base metric = .ok ms)
        ↔ ∃ ms, measure reading config' base metric = .ok ms)
    ∧ ∀ ms ms', measure reading config base metric = .ok ms →
        measure reading config' base metric = .ok ms' →
        ms.Perm ms'
        ∧ (metric = .networkConnections ∨ metric = .runtimeGcCount → ms = ms') := by
  refine ⟨⟨?_, ?_⟩, fun ms ms' h h' => ⟨?_, fun hmetric => ?_⟩⟩
  · rintro ⟨ms, h⟩
    obtain ⟨ms', h', -⟩ := exists_measure_reordered hsame h
    exact ⟨ms', h'⟩
  · rintro ⟨ms, h⟩
    obtain ⟨ms', h', -⟩ := exists_measure_reordered hsame.symm h
    exact ⟨ms', h'⟩
  · obtain ⟨other, hother, hperm⟩ := exists_measure_reordered hsame h
    rwa [Except.ok.inj (h'.symm.trans hother)]
  · exact Except.ok.inj ((measure_reordered_of_unordered hsame hmetric h).symm.trans h')

/-- A reading of one interface that has received and sent. -/
def oneInterface : Reading
  | .interfaces => .ok [⟨"lo", some 1, some 2, none, none, none, none, none, none⟩]
  | _ => .error (.abort .sumOverflow)

/-- What is received comes first or last, as it is configured. Connections
are counted by endpoint and kind as they are by kind and endpoint. -/
theorem measure_reordered_two_orders :
    (∃ received sent : Measurement,
      measure oneInterface (.set .empty .networkBytes ["receive", "transmit"]) .empty
          .networkBytes = .ok [received, sent]
      ∧ measure oneInterface (.set .empty .networkBytes ["transmit", "receive"]) .empty
          .networkBytes = .ok [sent, received]
      ∧ [received, sent].Perm [sent, received])
    ∧ ∃ streams datagrams : Measurement,
      measure oneEndpointReading (.set .empty .networkConnections ["laddr", "type"]) .empty
          .networkConnections = .ok [streams, datagrams]
      ∧ measure oneEndpointReading (.set .empty .networkConnections ["type", "laddr"]) .empty
          .networkConnections = .ok [streams, datagrams] := by
  refine ⟨?_, ?_⟩
  · have hsame : SameFields (.set .empty .networkBytes ["receive", "transmit"])
        (.set .empty .networkBytes ["transmit", "receive"]) .networkBytes :=
      .some (.swap "transmit" "receive" [])
    let measured (direction : String) (n : Nat) : Measurement :=
      ⟨Counter.toFloat n,
        LabelSet.empty.extend [("device", .str "lo"), ("direction", .str direction)]⟩
    have hreceive : measure oneInterface (.set .empty .networkBytes ["receive", "transmit"])
        .empty .networkBytes = .ok [measured "receive" 2, measured "transmit" 1] := rfl
    have htransmit : measure oneInterface (.set .empty .networkBytes ["transmit", "receive"])
        .empty .networkBytes = .ok [measured "transmit" 1, measured "receive" 2] := rfl
    exact ⟨_, _, hreceive, htransmit,
      ((measure_reordered hsame).2 _ _ hreceive htransmit).1⟩
  · have hsame : SameFields (.set .empty .networkConnections ["laddr", "type"])
        (.set .empty .networkConnections ["type", "laddr"]) .networkConnections :=
      .some (.swap "type" "laddr" [])
    let labels (protocol : String) (kind : Int64) : LabelSet :=
      .ofList [("protocol", .str protocol), ("state", .str "LISTEN"), ("laddr", .str "a:1"),
        ("type", .int kind)]
    let labelsOf (c : Connection) := if c.kind = 1 then labels "tcp" 1 else labels "udp" 2
    have hlabels : ∀ c ∈ oneEndpoint, groupOf .empty ["laddr", "type"] c = .ok (labelsOf c) := by
      decide
    have hplain : plainGroups labelsOf oneEndpoint
        = [(labels "tcp" 1, 2), (labels "udp" 2, 1)] := by
      decide
    have hendpoint : measure oneEndpointReading
          (.set .empty .networkConnections ["laddr", "type"]) .empty .networkConnections
        = .ok (counts [(labels "tcp" 1, 2), (labels "udp" 2, 1)]) := by
      rw [← hplain]
      exact connectionsBy_eq_counts rfl rfl hlabels
    -- only one order is measured out: that the other measures, and what, follows
    obtain ⟨ms, hkind⟩ := (measure_reordered hsame).1.mp ⟨_, hendpoint⟩
    obtain rfl := ((measure_reordered hsame).2 _ ms hendpoint hkind).2 (.inl rfl)
    exact ⟨_, _, hendpoint, hkind⟩

end Metrics

end HostMetrics
