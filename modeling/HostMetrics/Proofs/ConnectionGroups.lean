import HostMetrics.Proofs.Connections
import HostMetrics.Proofs.MeasureFailures

/-!
# Which connections are counted together

A group of connections is known by its labels: protocol, state and the
configured fields, on top of the base labels. A field in which a connection
has no value adds no label, and then what the base labels have under its name
stays there. So two connections are counted together iff they are of one kind
and one state and *show* the same in every configured field, where a
connection shows its own value or else the base label
(`groupLabels_eq_iff`).

Of one kind and state and with the same values of their own is what one would
like to read there, and it is the same thing for most base labels. It differs
where a base label is a value that a connection could have in the field and
others lack (`StandsIn`): a connection without a process is then counted with
those of the process that the base label names. Descriptor and process are
the fields that a connection can lack, so no other field is affected, and
neither is any field if the base labels have none of its possible values
(`counted_together_iff`).
-/

namespace HostMetrics

namespace Connection

/-- The value that a connection itself has in a field. -/
def own (c : Connection) (field : String) : Option LabelValue := (c.field? field).join

/-- The kinds of connections that are counted. -/
def IsCounted (c : Connection) : Prop := c.kind = streamKind ∨ c.kind = datagramKind

instance (c : Connection) : Decidable c.IsCounted :=
  inferInstanceAs (Decidable (c.kind = streamKind ∨ c.kind = datagramKind))

/-- **Connections that agree in fields**: of one kind and state, with the same
value or none in each of the fields. -/
structure AgreeIn (fields : List String) (c d : Connection) : Prop where
  /-- They are of one kind. -/
  kind : c.kind = d.kind
  /-- They are in one state. -/
  status : c.status = d.status
  /-- They have the same value, or none, in each of the fields. -/
  own : ∀ field ∈ fields, c.own field = d.own field

/-- Only descriptor and process can be lacking. -/
theorem eq_of_own_eq_none {c : Connection} {field : String} (hfield : field ∈ fieldNames)
    (h : c.own field = none) : field = "fd" ∨ field = "pid" := by
  simp only [fieldNames, List.mem_cons, List.not_mem_nil, or_false] at hfield
  rcases hfield with rfl | rfl | rfl | rfl | rfl | rfl | rfl
  · exact .inl rfl
  · cases h
  · cases h
  · cases h
  · cases h
  · cases h
  · exact .inr rfl

end Connection

namespace Collect

open Connection

/-! ## Labels of groups -/

/-- What a connection shows in a field: its own value, or else the base
label. -/
def shown (base : LabelSet) (c : Connection) (field : String) : Option LabelValue :=
  (c.own field).or (base.get? field)

/-- The name of the protocol of a counted connection. -/
def protocolName (c : Connection) : String := if c.kind = streamKind then "tcp" else "udp"

/-- The labels for those of the fields that a connection has a value in. -/
def ownLabels (fields : List String) (c : Connection) : List Label :=
  fields.filterMap fun field => (c.own field).map fun value => (field, value)

/-- **The labels that a connection is counted under.** -/
def groupLabels (base : LabelSet) (fields : List String) (c : Connection) : LabelSet :=
  base.extend (("protocol", .str (protocolName c)) :: ("state", .str c.status)
    :: ownLabels fields c)

variable {base : LabelSet} {fields : List String} {c d : Connection}

theorem fieldLabel?_eq_ok {field : String} (h : field ∈ fieldNames) :
    fieldLabel? c field = .ok ((c.own field).map fun value => (field, value)) := by
  have hvalue : c.field? field ≠ none := fun hnone => field?_eq_none_iff.mp hnone h
  unfold fieldLabel? own
  cases hc : c.field? field with
  | none => exact absurd hc hvalue
  | some value => rfl

theorem protocolOf_eq_ok (h : c.IsCounted) : protocolOf c.kind = .ok (protocolName c) := by
  unfold protocolOf protocolName
  rcases h with h | h
  · rw [if_pos h, if_pos h]
  · rw [if_neg (h ▸ by decide), if_pos h, if_neg (h ▸ by decide)]

/-- A counted connection is counted under its labels. -/
theorem groupOf_eq_ok (hknown : ∀ field ∈ fields, field ∈ fieldNames) (h : c.IsCounted) :
    groupOf base fields c = .ok (groupLabels base fields c) := by
  unfold groupOf
  rw [protocolOf_eq_ok h, ok_bind,
    mapM_eq_ok_map fun field hfield => fieldLabel?_eq_ok (hknown field hfield), ok_bind]
  simp only [List.filterMap_map]
  rfl

theorem lookup_ownLabels (fields : List String) (c : Connection) (key : String) :
    (ownLabels fields c).lookup key = if key ∈ fields then c.own key else none := by
  induction fields with
  | nil => rfl
  | cons field rest ih =>
    unfold ownLabels at ih ⊢
    by_cases hkey : key = field
    · subst hkey
      cases hown : c.own key with
      | none => simp [hown, ih]
      | some value => simp [hown]
    · cases hown : c.own field with
      | none => simp [hown, ih, hkey]
      | some value => simp [hown, ih, hkey, List.lookup_cons, beq_false_of_ne hkey]

theorem map_fst_ownLabels (fields : List String) (c : Connection) :
    (ownLabels fields c).map Prod.fst = fields.filter fun field => (c.own field).isSome := by
  unfold ownLabels
  induction fields with
  | nil => rfl
  | cons field rest ih => cases h : c.own field <;> simp [h, ih]

/-- The keys of the labels are distinct, so none of them replaces another. -/
theorem nodup_keys (hnodup : fields.Nodup) (hknown : ∀ field ∈ fields, field ∈ fieldNames) :
    ((("protocol", .str (protocolName c)) :: ("state", .str c.status) :: ownLabels fields c).map
      Prod.fst).Nodup := by
  have hkeys : ((ownLabels fields c).map Prod.fst).Sublist fields := by
    rw [map_fst_ownLabels]
    exact List.filter_sublist
  have hother : ∀ key, key ∉ fieldNames → key ∉ (ownLabels fields c).map Prod.fst :=
    fun key hkey hmem => hkey (hknown key (hkeys.subset hmem))
  simp only [List.map_cons, List.nodup_cons, List.mem_cons, not_or]
  exact ⟨⟨by decide, hother _ (by decide)⟩, hother _ (by decide), hnodup.sublist hkeys⟩

/-- **Every label of a group.** -/
theorem get?_groupLabels (hnodup : fields.Nodup) (hknown : ∀ field ∈ fields, field ∈ fieldNames)
    (key : String) :
    (groupLabels base fields c).get? key
      = if key = "protocol" then some (.str (protocolName c))
        else if key = "state" then some (.str c.status)
        else if key ∈ fields then shown base c key
        else base.get? key := by
  rw [groupLabels, LabelSet.get?_extend _ (nodup_keys hnodup hknown), List.lookup_cons]
  by_cases hprotocol : key = "protocol"
  · simp [hprotocol]
  · rw [beq_false_of_ne hprotocol, if_neg hprotocol]
    dsimp only
    rw [List.lookup_cons]
    by_cases hstate : key = "state"
    · simp [hstate]
    · rw [beq_false_of_ne hstate, if_neg hstate, lookup_ownLabels]
      by_cases hfield : key ∈ fields
      · simp [hfield, shown]
      · simp [hfield]

theorem protocolName_eq_iff (hc : c.IsCounted) (hd : d.IsCounted) :
    protocolName c = protocolName d ↔ c.kind = d.kind := by
  unfold protocolName
  rcases hc with hc | hc <;> rcases hd with hd | hd <;> simp [hc, hd, streamKind, datagramKind]

/-- **Two connections are counted together** iff they are of one kind and
state and show the same in every configured field. -/
theorem groupLabels_eq_iff (hnodup : fields.Nodup) (hknown : ∀ field ∈ fields, field ∈ fieldNames)
    (hc : c.IsCounted) (hd : d.IsCounted) :
    groupLabels base fields c = groupLabels base fields d
      ↔ c.kind = d.kind ∧ c.status = d.status
        ∧ ∀ field ∈ fields, shown base c field = shown base d field := by
  constructor
  · intro h
    have hget : ∀ key, (groupLabels base fields c).get? key
        = (groupLabels base fields d).get? key := fun key => by rw [h]
    simp only [get?_groupLabels hnodup hknown] at hget
    refine ⟨?_, ?_, fun field hfield => ?_⟩
    · have := hget "protocol"
      simp only [↓reduceIte, Option.some.injEq, LabelValue.str.injEq] at this
      exact (protocolName_eq_iff hc hd).mp this
    · have := hget "state"
      simpa using this
    · have hprotocol : field ≠ "protocol" := fun heq => absurd (heq ▸ hknown field hfield) (by decide)
      have hstate : field ≠ "state" := fun heq => absurd (heq ▸ hknown field hfield) (by decide)
      have := hget field
      rwa [if_neg hprotocol, if_neg hstate, if_pos hfield, if_neg hprotocol, if_neg hstate,
        if_pos hfield] at this
  · rintro ⟨hkind, hstatus, hfields⟩
    refine LabelSet.ext_get? fun key => ?_
    rw [get?_groupLabels hnodup hknown, get?_groupLabels hnodup hknown,
      (protocolName_eq_iff hc hd).mpr hkind, hstatus]
    by_cases hfield : key ∈ fields
    · rw [hfields key hfield]
    · simp only [hfield, if_false]

/-! ## Base labels that stand in -/

/-- **A base label stands in for a value** that connections can lack: it is
one that other connections have. -/
def StandsIn (base : LabelSet) (field : String) : Prop :=
  (field = "fd" ∧ ∃ n : Int64, base.get? "fd" = some (.int n))
    ∨ (field = "pid" ∧ ∃ n : UInt32, base.get? "pid" = some (.ofNat n.toNat))

theorem standsIn_of_own {field : String} {value : LabelValue} (hfield : field ∈ fieldNames)
    (hbase : base.get? field = some value) (hc : c.own field = some value)
    (hd : d.own field = none) : StandsIn base field := by
  rcases eq_of_own_eq_none hfield hd with rfl | rfl
  · obtain ⟨n, -, rfl⟩ := Option.map_eq_some_iff.mp (show c.descriptor.map .int = some value from hc)
    exact .inl ⟨rfl, n, hbase⟩
  · obtain ⟨n, -, rfl⟩ := Option.map_eq_some_iff.mp
      (show c.process.map (fun n => .ofNat n.toNat) = some value from hc)
    exact .inr ⟨rfl, n, hbase⟩

/-- What connections show is what they have, unless a base label stands in. -/
theorem shown_eq_iff {field : String} (hfield : field ∈ fieldNames) (h : ¬ StandsIn base field) :
    shown base c field = shown base d field ↔ c.own field = d.own field := by
  unfold shown
  constructor
  · intro hshown
    cases hc : c.own field with
    | some value =>
      cases hd : d.own field with
      | some other => simpa [hc, hd] using hshown
      | none =>
        rw [hc, hd, Option.some_or, Option.none_or] at hshown
        exact absurd (standsIn_of_own hfield hshown.symm hc hd) h
    | none =>
      cases hd : d.own field with
      | some other =>
        rw [hc, hd, Option.some_or, Option.none_or] at hshown
        exact absurd (standsIn_of_own hfield hshown hd hc) h
      | none => rfl
  · exact fun hown => by rw [hown]

theorem own_of_ne_fd (c : Connection) (descriptor : Option Int64) {field : String}
    (h : field ≠ "fd") : { c with descriptor := descriptor }.own field = c.own field := by
  unfold own field?
  split <;> simp_all

theorem own_of_ne_pid (c : Connection) (process : Option UInt32) {field : String}
    (h : field ≠ "pid") : { c with process := process }.own field = c.own field := by
  unfold own field?
  split <;> simp_all

/-- A listening socket of which neither descriptor nor process is known. -/
def unheld : Connection := ⟨none, familyV4, streamKind, "a:1", "", "LISTEN", none⟩

/-- Where a base label stands in, two connections show the same and do not
have the same. -/
theorem exists_shown_eq {field : String} (h : StandsIn base field) :
    ∃ c d : Connection, c.IsCounted ∧ d.IsCounted ∧ c.kind = d.kind ∧ c.status = d.status
      ∧ (∀ other, shown base c other = shown base d other) ∧ c.own field ≠ d.own field := by
  obtain ⟨rfl, n, hbase⟩ | ⟨rfl, n, hbase⟩ := h
  · refine ⟨{ unheld with descriptor := some n }, unheld, .inl rfl, .inl rfl, rfl, rfl,
      fun other => ?_, fun h => nomatch h⟩
    by_cases hother : other = "fd"
    · subst hother
      show some (.int n) = base.get? "fd"
      rw [hbase]
    · rw [shown, own_of_ne_fd unheld _ hother, shown]
  · refine ⟨{ unheld with process := some n }, unheld, .inl rfl, .inl rfl, rfl, rfl,
      fun other => ?_, fun h => nomatch h⟩
    by_cases hother : other = "pid"
    · subst hother
      show some (.ofNat n.toNat) = base.get? "pid"
      rw [hbase]
    · rw [shown, own_of_ne_pid unheld _ hother, shown]

/-- **Connections are counted per kind, state and field values as long as no
base label stands in for one.** -/
theorem counted_together_iff (digest : LabelSet → UInt64) (base : LabelSet) (selector : Selector)
    (hknown : ∀ field ∈ selector.fields, field ∈ fieldNames) :
    (∀ connections : List Connection, (∀ c ∈ connections, c.IsCounted) →
        groups digest base selector.fields connections
          = .ok (plainGroups (groupLabels base selector.fields) connections))
      ∧ (∀ c d : Connection, c.IsCounted → d.IsCounted →
        (groupLabels base selector.fields c = groupLabels base selector.fields d
          ↔ c.kind = d.kind ∧ c.status = d.status
            ∧ ∀ field ∈ selector.fields, shown base c field = shown base d field))
      ∧ ((∀ c d : Connection, c.IsCounted → d.IsCounted →
          (groupLabels base selector.fields c = groupLabels base selector.fields d
            ↔ AgreeIn selector.fields c d))
        ↔ ∀ field ∈ selector.fields, ¬ StandsIn base field) := by
  have htogether : ∀ c d : Connection, c.IsCounted → d.IsCounted →
      (groupLabels base selector.fields c = groupLabels base selector.fields d
        ↔ c.kind = d.kind ∧ c.status = d.status
          ∧ ∀ field ∈ selector.fields, shown base c field = shown base d field) :=
    fun c d => groupLabels_eq_iff selector.nodup hknown
  refine ⟨fun connections hcounted => ?_, htogether, ?_, ?_⟩
  · exact groups_eq_plainGroups fun c hc => groupOf_eq_ok hknown (hcounted c hc)
  · intro hagree field hfield hstands
    obtain ⟨c, d, hc, hd, hkind, hstatus, hshown, hown⟩ := exists_shown_eq hstands
    have hgroup := (htogether c d hc hd).mpr ⟨hkind, hstatus, fun other _ => hshown other⟩
    exact hown (((hagree c d hc hd).mp hgroup).own field hfield)
  · intro hstands c d hc hd
    rw [htogether c d hc hd]
    have hfields : (∀ field ∈ selector.fields, shown base c field = shown base d field)
        ↔ ∀ field ∈ selector.fields, c.own field = d.own field :=
      forall₂_congr fun field hfield => shown_eq_iff (hknown field hfield) (hstands field hfield)
    rw [hfields]
    exact ⟨fun ⟨hkind, hstatus, hown⟩ => ⟨hkind, hstatus, hown⟩,
      fun hagree => ⟨hagree.kind, hagree.status, hagree.own⟩⟩

/-- The same socket, held by a process. -/
def heldBySeven : Connection := { unheld with process := some 7 }

/-- Under a base label of another name, a connection without a process is
counted apart. -/
theorem counted_together_iff_other_name :
    groups LabelSet.digest (.ofList [("host", .int 7)]) ["pid"] [heldBySeven, unheld]
        = .ok (plainGroups (groupLabels (.ofList [("host", .int 7)]) ["pid"])
          [heldBySeven, unheld])
      ∧ groupLabels (.ofList [("host", .int 7)]) ["pid"] heldBySeven
        ≠ groupLabels (.ofList [("host", .int 7)]) ["pid"] unheld := by
  obtain ⟨hgroups, -, hagree⟩ := counted_together_iff LabelSet.digest (.ofList [("host", .int 7)])
    ⟨["pid"], by decide⟩ (by decide)
  have hstands : ∀ field ∈ ["pid"], ¬ StandsIn (.ofList [("host", .int 7)]) field := by
    rintro field - (⟨-, n, hbase⟩ | ⟨-, n, hbase⟩)
    · cases hbase
    · cases hbase
  refine ⟨hgroups _ (by decide), fun h => ?_⟩
  have hown := ((hagree.mpr hstands heldBySeven unheld (.inl rfl) (.inl rfl)).mp h).own "pid"
    List.mem_cons_self
  cases hown

/-- **A connection without a process is counted with those of the process
that a base label names.** -/
theorem unheld_counted_with_heldBySeven :
    groups LabelSet.digest (.ofList [("pid", .int 7)]) ["pid"] [heldBySeven, unheld]
        = .ok [(.ofList [("pid", .int 7), ("protocol", .str "tcp"), ("state", .str "LISTEN")], 2)]
      ∧ heldBySeven.own "pid" = some (.int 7) ∧ unheld.own "pid" = none := by
  have hplain : plainGroups (groupLabels (.ofList [("pid", .int 7)]) ["pid"])
      [heldBySeven, unheld]
      = [(.ofList [("pid", .int 7), ("protocol", .str "tcp"), ("state", .str "LISTEN")], 2)] := by
    decide
  refine ⟨?_, rfl, rfl⟩
  rw [← hplain]
  exact groups_eq_plainGroups fun c hc => groupOf_eq_ok (by decide) (by revert c; decide)

end Collect

end HostMetrics
