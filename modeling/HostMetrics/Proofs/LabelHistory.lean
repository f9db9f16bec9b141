import HostMetrics.Label.Digest
import HostMetrics.Label.Json
import HostMetrics.Proofs.Sequence

/-!
# The history of a label set

A label set starts empty or from a list of labels, and further labels are set
on it one at a time or many at once. However that is done, it comes down to a
sequence of writes, and the same writes one after the other on the empty set
make the same set (`Construction.make_eq`). So under each key stands the value
that was written there last (`LabelSet.get?_ofList_eq_some_iff`).

Two histories may mix the operations and order their writes in different ways.
As long as they leave the same last value under each key, the sets are equal,
since a set lists its labels in the order of their keys and keeps nothing else;
and with the sets, so are their texts and their digests.
-/

namespace HostMetrics

namespace LabelSet

variable {s : LabelSet} {labels : List Label} {key : String} {value : LabelValue}

/-! ## Writes -/

/-- **The last value written** under a key. -/
def LastWritten (writes : List Label) (key : String) (value : LabelValue) : Prop :=
  IsLastOf (fun label : Label => label.1 = key) writes (key, value)

theorem extend_append (s : LabelSet) (labels labels' : List Label) :
    s.extend (labels ++ labels') = (s.extend labels).extend labels' :=
  List.foldl_append

theorem ofList_concat (labels : List Label) (label : Label) :
    ofList (labels ++ [label]) = (ofList labels).insert label.1 label.2 :=
  extend_append empty labels [label]

/-- **Under a key stands the value that was written there last.** -/
theorem get?_ofList_eq_some_iff :
    (ofList labels).get? key = some value ↔ LastWritten labels key value := by
  have hlast : (ofList labels).get? key = some value
      ↔ ∃ label, IsLastOf (fun label : Label => label.1 = key) labels label
        ∧ some label.2 = some value := by
    refine seen_eq_some_iff (fun labels => (ofList labels).get? key) rfl ?_ ?_
    · intro labels label hlabel
      rw [ofList_concat, get?_insert, if_pos hlabel.symm]
    · intro labels label hlabel
      rw [ofList_concat, get?_insert, if_neg (Ne.symm hlabel)]
  rw [hlast]
  constructor
  · rintro ⟨⟨k, v⟩, hlabel, hvalue⟩
    obtain rfl : k = key := hlabel.kind
    obtain rfl : v = value := Option.some.inj hvalue
    exact hlabel
  · exact fun h => ⟨(key, value), h, rfl⟩

/-- Nothing stands under a key that was never written. -/
theorem get?_ofList_eq_none_iff :
    (ofList labels).get? key = none ↔ key ∉ labels.map Prod.fst := by
  induction labels using List.reverseRecOn with
  | nil => exact iff_of_true rfl List.not_mem_nil
  | append_singleton labels label ih =>
    rw [ofList_concat, get?_insert, List.map_append, List.mem_append, not_or, ← ih]
    by_cases hkey : key = label.1 <;> simp [hkey]

/-! ## What a set lists -/

theorem valueOf?_eq_some_iff {entries : List Label} (h : Ascending entries) :
    valueOf? entries key = some value ↔ (key, value) ∈ entries := by
  induction entries with
  | nil => simp
  | cons entry entries ih =>
    obtain ⟨k, v⟩ := entry
    obtain ⟨hentry, hentries⟩ := List.pairwise_cons.mp h
    rw [valueOf?_cons, List.mem_cons, Prod.mk.injEq]
    by_cases hkey : key = k
    · -- the key does not come again behind its first entry
      subst hkey
      have hrest : (key, value) ∉ entries := fun hmem => (hentry _ hmem).ne rfl
      simp [hrest, eq_comm]
    · simp [ih hentries, hkey]

/-- **A set lists what stands under its keys.** -/
theorem mem_entries_iff : (key, value) ∈ s.entries ↔ s.get? key = some value :=
  (valueOf?_eq_some_iff s.ascending).symm

/-- What a set lists, written in that order, makes the set again. -/
theorem ofList_entries (s : LabelSet) : ofList s.entries = s := by
  refine ext_get? fun key => Option.ext fun value => ?_
  rw [get?_ofList_eq_some_iff, ← mem_entries_iff]
  constructor
  · rintro ⟨before, after, hentries, -⟩
    rw [hentries]
    exact List.mem_append_right before List.mem_cons_self
  · intro hmem
    obtain ⟨before, after, hentries⟩ := List.append_of_mem hmem
    have hascending := s.ascending
    rw [hentries] at hascending
    have hafter := (List.pairwise_cons.mp (List.pairwise_append.mp hascending).2.1).1
    exact ⟨before, after, hentries, rfl, fun label hlabel => (hafter label hlabel).ne.symm⟩

end LabelSet

/-! ## Histories -/

/-- **How a label set is made.** -/
inductive Construction where
  /-- Without labels. -/
  | empty
  /-- Of the given labels. -/
  | ofList (labels : List Label)
  /-- From another set by one label more. -/
  | insert (base : Construction) (key : String) (value : LabelValue)
  /-- From another set by the given labels. -/
  | extend (base : Construction) (labels : List Label)

namespace Construction

/-- The set that is made. -/
def make : Construction → LabelSet
  | empty => .empty
  | ofList labels => .ofList labels
  | insert base key value => base.make.insert key value
  | extend base labels => base.make.extend labels

/-- The labels in the order in which they are written, those of the set that
others are added to first. -/
def writes : Construction → List Label
  | empty => []
  | ofList labels => labels
  | insert base key value => base.writes ++ [(key, value)]
  | extend base labels => base.writes ++ labels

/-- **A construction comes down to its writes.** -/
theorem make_eq (c : Construction) : c.make = .ofList c.writes := by
  induction c with
  | empty => rfl
  | ofList labels => rfl
  | insert base key value ih => rw [make, writes, ih, LabelSet.ofList_concat]
  | extend base labels ih => rw [make, writes, ih, LabelSet.ofList, LabelSet.ofList,
      LabelSet.extend_append]

theorem get?_make_eq_some_iff {c : Construction} {key : String} {value : LabelValue} :
    c.make.get? key = some value ↔ LabelSet.LastWritten c.writes key value := by
  rw [make_eq, LabelSet.get?_ofList_eq_some_iff]

/-- **Two constructions that leave the same last values make the same set.** -/
theorem make_eq_make_iff {c d : Construction} :
    c.make = d.make ↔ ∀ key value, LabelSet.LastWritten c.writes key value
      ↔ LabelSet.LastWritten d.writes key value := by
  simp only [← get?_make_eq_some_iff]
  constructor
  · intro h key value
    rw [h]
  · exact fun h => LabelSet.ext_get? fun key => Option.ext (h key)

/-- **A label set is what was written last under each key.** However a set was
made, it lists its keys in the order of their bytes, none of them twice, and
under each one the value that was written there last. Two sets are equal iff
the same stands under each key, and so are the sets of two constructions that
leave the same last values, with their texts and digests. -/
theorem make_canonical :
    (∀ c : Construction, (c.make.entries.map fun label => utf8 label.1).Pairwise (· < ·))
    ∧ (∀ (c : Construction) (key : String) (value : LabelValue),
        ((key, value) ∈ c.make.entries ↔ c.make.get? key = some value)
        ∧ (c.make.get? key = some value ↔ LabelSet.LastWritten c.writes key value))
    ∧ (∀ (c : Construction) (key : String),
        c.make.get? key = none ↔ key ∉ c.writes.map Prod.fst)
    ∧ (∀ c d : Construction,
        c.make = d.make ↔ ∀ key, c.make.get? key = d.make.get? key)
    ∧ (∀ c d : Construction,
        (∀ key value, LabelSet.LastWritten c.writes key value
          ↔ LabelSet.LastWritten d.writes key value) →
        c.make = d.make ∧ c.make.json = d.make.json ∧ c.make.digest = d.make.digest)
    ∧ ∀ s : LabelSet, ∃ c : Construction, c.make = s := by
  refine ⟨fun c => ?_, fun c key value => ⟨LabelSet.mem_entries_iff, get?_make_eq_some_iff⟩,
    fun c key => ?_, fun c d => ⟨fun h key => h ▸ rfl, LabelSet.ext_get?⟩, fun c d h => ?_,
    fun s => ⟨.ofList s.entries, LabelSet.ofList_entries s⟩⟩
  · exact c.make.ascending.map _ fun _ _ h => h
  · rw [make_eq, LabelSet.get?_ofList_eq_none_iff]
  · have hmake := make_eq_make_iff.mpr h
    exact ⟨hmake, congrArg _ hmake, congrArg _ hmake⟩

end Construction

end HostMetrics
