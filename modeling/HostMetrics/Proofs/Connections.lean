import HostMetrics.Collect.Basic
import HostMetrics.Proofs.Sequence
import HostMetrics.Proofs.Tally

/-!
# Connections are counted by their labels

The metric of network connections has one measurement for each set of
labels that some connection has, in the order in which the sets first come
up, and its value is the number of connections with these labels. The
connections are grouped through a digest of their labels, and none of this
depends on the digest.
-/

namespace HostMetrics.Collect

/-- **Grouping without digests**: the distinct label sets of connections, in
the order in which they first come up, each with the number of connections
that have exactly these labels. -/
def plainGroups (labelsOf : Connection → LabelSet) (connections : List Connection) :
    List (LabelSet × Nat) :=
  (connections.map labelsOf).eraseDups.map fun labels =>
    (labels, connections.countP fun c => labelsOf c = labels)

theorem plainGroups_eq_occurrences (labelsOf : Connection → LabelSet)
    (connections : List Connection) :
    plainGroups labelsOf connections = Tally.occurrences (connections.map labelsOf) := by
  unfold plainGroups Tally.occurrences
  refine List.map_congr_left fun labels _ => ?_
  rw [List.count, List.countP_map]
  refine congrArg (Prod.mk labels) (List.countP_congr fun c _ => ?_)
  simp

variable {digest : LabelSet → UInt64} {reading : Reading} {config : Configuration}
  {base : LabelSet} {fields : List String} {connections : List Connection}
  {labelsOf : Connection → LabelSet}

/-- Connections that have labels are grouped as without digests. -/
theorem groups_eq_plainGroups
    (hlabels : ∀ c ∈ connections, groupOf base fields c = .ok (labelsOf c)) :
    groups digest base fields connections = .ok (plainGroups labelsOf connections) := by
  unfold groups
  rw [mapM_eq_ok_map hlabels, ok_bind, (Tally.ofList_spec digest _).2,
    plainGroups_eq_occurrences]
  rfl

theorem connectionsBy_eq_counts (hfields : config.fields? .networkConnections = some fields)
    (hread : reading .connections = .ok connections)
    (hlabels : ∀ c ∈ connections, groupOf base fields c = .ok (labelsOf c)) :
    connectionsBy digest reading config base = .ok (counts (plainGroups labelsOf connections)) := by
  unfold connectionsBy
  rw [fieldsOf_eq_ok.mpr hfields, ok_bind, ask_eq_ok.mpr hread, ok_bind,
    groups_eq_plainGroups hlabels]
  rfl

theorem plainGroups_perm {connections' : List Connection} (h : connections'.Perm connections) :
    (plainGroups labelsOf connections').Perm (plainGroups labelsOf connections) := by
  rw [plainGroups_eq_occurrences, plainGroups_eq_occurrences]
  exact Tally.occurrences_perm (h.map labelsOf)

/-- **Connections are counted by their labels, whatever the digest.** -/
theorem connections_counted (digest : LabelSet → UInt64)
    (hfields : config.fields? .networkConnections = some fields)
    (hread : reading .connections = .ok connections)
    (hlabels : ∀ c ∈ connections, groupOf base fields c = .ok (labelsOf c)) :
    ∃ groups : List (LabelSet × Nat),
      groups = plainGroups labelsOf connections
      ∧ Collect.groups digest base fields connections = .ok groups
      ∧ connectionsBy digest reading config base
          = .ok (groups.map fun (labels, n) => ⟨Counter.toFloat n, labels⟩)
      ∧ measure reading config base .networkConnections
          = connectionsBy digest reading config base
      ∧ (groups.map Prod.fst).Nodup
      ∧ (∀ group ∈ groups, 1 ≤ group.2)
      ∧ (groups.map Prod.snd).sum = connections.length
      ∧ ∀ (digest' : LabelSet → UInt64) (reading' : Reading) (connections' : List Connection),
          reading' .connections = .ok connections' → connections'.Perm connections →
          ∃ measurements, connectionsBy digest' reading' config base = .ok measurements
            ∧ measurements.Perm
              (groups.map fun (labels, n) => ⟨Counter.toFloat n, labels⟩) := by
  refine ⟨_, rfl, groups_eq_plainGroups hlabels, connectionsBy_eq_counts hfields hread hlabels,
    ?_, ?_, ?_, ?_, ?_⟩
  · rw [connectionsBy_eq_counts hfields hread hlabels]
    exact connectionsBy_eq_counts hfields hread hlabels
  · rw [plainGroups_eq_occurrences]
    exact Tally.nodup_occurrences _
  · intro group hgroup
    rw [plainGroups_eq_occurrences] at hgroup
    exact Tally.one_le_of_mem_occurrences hgroup
  · rw [plainGroups_eq_occurrences, Tally.sum_occurrences, List.length_map]
  · intro digest' reading' connections' hread' hperm
    have hlabels' : ∀ c ∈ connections', groupOf base fields c = .ok (labelsOf c) :=
      fun c hc => hlabels c (hperm.mem_iff.mp hc)
    exact ⟨_, connectionsBy_eq_counts hfields hread' hlabels', (plainGroups_perm hperm).map _⟩

/-- Two streams and a datagram socket, all at one endpoint on this side. -/
def oneEndpoint : List Connection :=
  [⟨none, 2, 1, "a:1", "b:1", "LISTEN", none⟩, ⟨none, 2, 2, "a:1", "", "LISTEN", none⟩,
    ⟨none, 2, 1, "a:1", "c:1", "LISTEN", none⟩]

/-- A reading that tells them and nothing else. -/
def oneEndpointReading : Reading
  | .connections => .ok oneEndpoint
  | _ => .error (.abort .sumOverflow)

/-- The labels of a socket at the endpoint, by its protocol. -/
def endpointLabels (protocol : String) : LabelSet :=
  .ofList [("protocol", .str protocol), ("state", .str "LISTEN"), ("laddr", .str "a:1")]

/-- A digest that is the same for all label sets still keeps the groups
apart: the two streams are counted together and without the datagrams. -/
theorem connections_counted_same_digest :
    connectionsBy (fun _ => 7) oneEndpointReading
        (Configuration.empty.set .networkConnections ["laddr", "pid"]) .empty
      = .ok [⟨2, endpointLabels "tcp"⟩, ⟨1, endpointLabels "udp"⟩] := by
  let labelsOf (c : Connection) := endpointLabels (if c.kind = 1 then "tcp" else "udp")
  have hlabels : ∀ c ∈ oneEndpoint, groupOf .empty ["laddr", "pid"] c = .ok (labelsOf c) := by
    decide
  have hplain : plainGroups labelsOf oneEndpoint
      = [(endpointLabels "tcp", 2), (endpointLabels "udp", 1)] := by
    decide
  have hread : oneEndpointReading .connections = .ok oneEndpoint := rfl
  have hfields : (Configuration.empty.set .networkConnections ["laddr", "pid"]).fields?
      .networkConnections = some ["laddr", "pid"] := rfl
  obtain ⟨groups, hgroups, -, hmeasured, -⟩ :=
    connections_counted (fun _ => 7) hfields hread hlabels
  refine hmeasured.trans (congrArg Except.ok ?_)
  rw [hgroups, hplain]
  rfl

end HostMetrics.Collect
