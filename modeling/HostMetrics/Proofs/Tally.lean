import HostMetrics.Configuration
import HostMetrics.Tally
import Mathlib.Algebra.BigOperators.Group.List.Lemmas
import Mathlib.Algebra.Ring.Nat
import Mathlib.Data.List.Nodup

/-!
# A tally counts as if there were no digests

A tally finds a value among those that share its digest. Digests may
collide, so that this finds the right group has to come from somewhere: it
comes from the index, which lists every group under the digest of its own
value and under no other. The search then looks at all groups that could
be the one, and compares values before it takes one for it.

`Tally.Indexed` is that invariant. Every step keeps it
(`Tally.Indexed.add`), and under it a step does what a search by comparison
alone would do (`Tally.Indexed.toList_add`). So the tally of a list is
`Tally.occurrences` of it for every digest, a constant one included.
-/

namespace HostMetrics.Tally

variable {α : Type} [DecidableEq α] {digest : α → UInt64} {t : Tally α} {a : α}

/-! ## Counting by comparison alone -/

/-- **Counting without digests**: the distinct values of a list in the order
of first occurrence, each with the number of its occurrences. -/
def occurrences (values : List α) : List (α × Nat) :=
  values.eraseDups.map fun a => (a, values.count a)

/-- One more occurrence of a value. It gets the group that is the value's
already, or else a new one at the end. -/
def countOne (a : α) : List (α × Nat) → List (α × Nat)
  | [] => [(a, 1)]
  | (b, n) :: rest => if b = a then (b, n + 1) :: rest else (b, n) :: countOne a rest

theorem countOne_of_not_mem {groups : List (α × Nat)} (h : a ∉ groups.map Prod.fst) :
    countOne a groups = groups ++ [(a, 1)] := by
  induction groups with
  | nil => rfl
  | cons group rest ih =>
    obtain ⟨b, n⟩ := group
    simp only [List.map_cons, List.mem_cons, not_or] at h
    rw [countOne, if_neg (Ne.symm h.1), ih h.2, List.cons_append]

/-- A value that has a group is counted there. -/
theorem countOne_of_getElem? {groups : List (α × Nat)} (hnodup : (groups.map Prod.fst).Nodup)
    {i n : Nat} (h : groups[i]? = some (a, n)) :
    countOne a groups = groups.modify i fun group => (group.1, group.2 + 1) := by
  induction groups generalizing i with
  | nil => cases h
  | cons group rest ih =>
    obtain ⟨b, m⟩ := group
    rw [List.map_cons, List.nodup_cons] at hnodup
    cases i with
    | zero =>
      obtain ⟨rfl, rfl⟩ : b = a ∧ m = n := by simpa using h
      rw [countOne, if_pos rfl]
      rfl
    | succ i =>
      have hi : rest[i]? = some (a, n) := by simpa using h
      have hmem : a ∈ rest.map Prod.fst :=
        List.mem_map.mpr ⟨(a, n), List.mem_of_getElem? hi, rfl⟩
      have hne : b ≠ a := fun e => hnodup.1 (by rw [e]; exact hmem)
      rw [countOne, if_neg hne, ih hnodup.2 hi]
      rfl

/-- Counting one of several distinct values leaves the numbers of the others
alone. -/
theorem countOne_map {values : List α} (hnodup : values.Nodup) (h : a ∈ values)
    (number : α → Nat) :
    countOne a (values.map fun b => (b, number b))
      = values.map fun b => (b, number b + if b = a then 1 else 0) := by
  induction values with
  | nil => cases h
  | cons b rest ih =>
    rw [List.nodup_cons] at hnodup
    rw [List.map_cons, List.map_cons, countOne]
    by_cases hb : b = a
    · subst hb
      have hrest : rest.map (fun c => (c, number c))
          = rest.map fun c => (c, number c + if c = b then 1 else 0) := by
        refine List.map_congr_left fun c hc => ?_
        have hne : c ≠ b := fun e => hnodup.1 (e ▸ hc)
        rw [if_neg hne, Nat.add_zero]
      rw [if_pos rfl, if_pos rfl, hrest]
    · have hmem : a ∈ rest := (List.mem_cons.mp h).resolve_left (Ne.symm hb)
      rw [if_neg hb, if_neg hb, ih hnodup.2 hmem, Nat.add_zero]

/-- **One step of counting by comparison**: a value is counted as if it had
stood at the end of the list. -/
theorem countOne_occurrences (a : α) (values : List α) :
    countOne a (occurrences values) = occurrences (values ++ [a]) := by
  unfold occurrences
  by_cases h : a ∈ values
  · have herase : (values ++ [a]).eraseDups = values.eraseDups := by
      rw [List.eraseDups_append]
      simp [List.removeAll, h]
    rw [herase, countOne_map (nodup_eraseDups values) (List.mem_eraseDups.mpr h)]
    refine List.map_congr_left fun b _ => ?_
    rw [List.count_append, List.count_singleton]
    by_cases hb : b = a <;> simp [hb, Ne.symm]
  · have herase : (values ++ [a]).eraseDups = values.eraseDups ++ [a] := by
      rw [List.eraseDups_append]
      simp [List.removeAll, h, List.eraseDups_cons]
    have hnone : values.count a = 0 := List.count_eq_zero.mpr h
    have hsame : values.eraseDups.map (fun b => (b, values.count b))
        = values.eraseDups.map fun b => (b, (values ++ [a]).count b) := by
      refine List.map_congr_left fun b hb => ?_
      have hne : a ≠ b := fun e => h (e ▸ List.mem_eraseDups.mp hb)
      rw [List.count_append, List.count_singleton]
      simp [hne]
    rw [herase, List.map_append, countOne_of_not_mem (by simpa using h), hsame]
    simp [hnone]

/-! ## What the numbers add up to -/

theorem map_fst_occurrences (values : List α) :
    (occurrences values).map Prod.fst = values.eraseDups := by
  simp [occurrences, Function.comp_def]

theorem nodup_occurrences (values : List α) : ((occurrences values).map Prod.fst).Nodup := by
  rw [map_fst_occurrences]
  exact nodup_eraseDups values

theorem one_le_of_mem_occurrences {values : List α} {group : α × Nat}
    (h : group ∈ occurrences values) : 1 ≤ group.2 := by
  obtain ⟨a, ha, rfl⟩ := List.mem_map.mp h
  exact List.count_pos_iff.mpr (List.mem_eraseDups.mp ha)

theorem eraseDups_perm {values values' : List α} (h : ∀ a, a ∈ values ↔ a ∈ values') :
    values.eraseDups.Perm values'.eraseDups := by
  refine (List.perm_ext_iff_of_nodup (nodup_eraseDups values) (nodup_eraseDups values')).mpr ?_
  intro a
  rw [List.mem_eraseDups, List.mem_eraseDups, h]

/-- Every occurrence is counted once. -/
theorem sum_occurrences (values : List α) :
    ((occurrences values).map Prod.snd).sum = values.length := by
  have hcounts : (occurrences values).map Prod.snd = values.eraseDups.map values.count := by
    simp [occurrences, Function.comp_def]
  have hperm : values.eraseDups.Perm values.dedup :=
    (List.perm_ext_iff_of_nodup (nodup_eraseDups values) values.nodup_dedup).mpr fun a => by
      rw [List.mem_eraseDups, List.mem_dedup]
  rw [hcounts, (hperm.map values.count).sum_eq]
  exact List.sum_map_count_dedup_eq_length values

/-- The order of the values only decides the order of the groups. -/
theorem occurrences_perm {values values' : List α} (h : values.Perm values') :
    (occurrences values).Perm (occurrences values') := by
  have hgroup : (fun a => (a, values.count a)) = fun a => (a, values'.count a) := by
    funext a
    rw [h.count_eq]
  unfold occurrences
  rw [hgroup]
  exact (eraseDups_perm fun a => h.mem_iff).map _

/-! ## The index -/

/-- The counted values, in the order of their groups. -/
def values (t : Tally α) : List α := t.toList.map Prod.fst

/-- **The invariant of a tally.** A place is listed in the bucket of a digest
iff it is the place of a value with that digest, so no place is listed
astray or behind the last group, and no value has two groups. -/
structure Indexed (digest : α → UInt64) (t : Tally α) : Prop where
  /-- A bucket lists the places of the values with its digest. -/
  mem_placesOf (d : UInt64) (i : Nat) :
    i ∈ t.placesOf d ↔ ∃ a, t.values[i]? = some a ∧ digest a = d
  /-- The groups are of distinct values. -/
  nodup : t.values.Nodup

omit [DecidableEq α] in
theorem indexed_empty : Indexed digest (empty : Tally α) where
  mem_placesOf d i := by simp [placesOf, empty, values, toList]
  nodup := by simp [values, empty, toList]

omit [DecidableEq α] in
theorem values_getElem? (t : Tally α) (i : Nat) :
    t.values[i]? = t.groups[i]?.map Prod.fst := by
  simp [values, toList]

/-- The search ends at a place of the value. -/
theorem getElem?_of_place? {i : Nat} (hi : place? digest t a = some i) :
    t.values[i]? = some a := by
  rw [values_getElem?]
  simpa using List.find?_some hi

/-- A value that the search does not find has no group: its bucket would
list the place. -/
theorem Indexed.not_mem_of_place? (h : Indexed digest t) (hnone : place? digest t a = none) :
    a ∉ t.values := by
  intro hmem
  obtain ⟨i, hi⟩ := List.mem_iff_getElem?.mp hmem
  have hplace : i ∈ t.placesOf (digest a) := (h.mem_placesOf ..).mpr ⟨a, hi, rfl⟩
  have := List.find?_eq_none.mp hnone i hplace
  rw [values_getElem?] at hi
  simp [hi] at this

/-- **A step of a tally is a step without digests.** -/
theorem Indexed.toList_add (h : Indexed digest t) (a : α) :
    (add digest t a).toList = countOne a t.toList := by
  unfold add
  split
  next i hi =>
    have hvalue : t.values[i]? = some a := getElem?_of_place? hi
    obtain ⟨⟨b, n⟩, hgroup, rfl⟩ :
        ∃ group, t.toList[i]? = some group ∧ group.1 = a := by
      simpa [values] using hvalue
    rw [countOne_of_getElem? h.nodup hgroup]
    simp [toList]
  next hnone =>
    rw [countOne_of_not_mem (h.not_mem_of_place? hnone)]
    simp [toList]

/-- A value that is found gets no second group. -/
theorem values_add_of_some {i : Nat} (hi : place? digest t a = some i) :
    (add digest t a).values = t.values := by
  unfold add
  rw [hi]
  refine List.ext_getElem? fun j => ?_
  simp only [values_getElem?, Array.getElem?_modify]
  split <;> simp [Function.comp_def]

/-- A value that is not found gets the next place. -/
theorem values_add_of_none (hnone : place? digest t a = none) :
    (add digest t a).values = t.values ++ [a] := by
  unfold add
  rw [hnone]
  simp [values, toList]

/-- The new place is listed in the bucket of the value and in no other. -/
theorem placesOf_add_of_none (hnone : place? digest t a = none) (d : UInt64) :
    (add digest t a).placesOf d
      = if digest a = d then t.values.length :: t.placesOf d else t.placesOf d := by
  have hsize : t.groups.size = t.values.length := by simp [values, toList]
  unfold add
  rw [hnone]
  show (t.slots.insert (digest a) (t.groups.size :: t.placesOf (digest a))).getD d [] = _
  rw [Std.HashMap.getD_insert, hsize]
  by_cases hd : digest a = d
  · simp [hd]
  · simp [hd, placesOf]

omit [DecidableEq α] in
theorem getElem?_append_singleton {values : List α} {b : α} {i : Nat} :
    (values ++ [a])[i]? = some b ↔ values[i]? = some b ∨ i = values.length ∧ b = a := by
  rcases Nat.lt_trichotomy i values.length with h | rfl | h
  · rw [List.getElem?_append_left h]
    simp [h.ne]
  · simp [eq_comm]
  · rw [List.getElem?_eq_none (by simp; omega), List.getElem?_eq_none h.le]
    simp [h.ne']

/-- **The invariant is kept by every step.** -/
theorem Indexed.add (h : Indexed digest t) (a : α) : Indexed digest (add digest t a) := by
  cases hplace : place? digest t a with
  | some i =>
    -- only a number changes, and the index does not speak of numbers
    refine ⟨fun d j => ?_, ?_⟩
    · rw [values_add_of_some hplace, ← h.mem_placesOf]
      unfold Tally.add
      rw [hplace]
      rfl
    · rw [values_add_of_some hplace]
      exact h.nodup
  | none =>
    refine ⟨fun d j => ?_, ?_⟩
    · rw [values_add_of_none hplace, placesOf_add_of_none hplace]
      by_cases hd : digest a = d
      · rw [if_pos hd, List.mem_cons, h.mem_placesOf]
        constructor
        · rintro (rfl | ⟨b, hb, hbd⟩)
          · exact ⟨a, by simp, hd⟩
          · exact ⟨b, getElem?_append_singleton.mpr (.inl hb), hbd⟩
        · rintro ⟨b, hb, hbd⟩
          rcases getElem?_append_singleton.mp hb with hb | ⟨hj, -⟩
          · exact .inr ⟨b, hb, hbd⟩
          · exact .inl hj
      · rw [if_neg hd, h.mem_placesOf]
        refine exists_congr fun b => and_congr_left fun hbd => ?_
        rw [getElem?_append_singleton]
        refine ⟨.inl, fun hb => hb.resolve_right ?_⟩
        rintro ⟨-, rfl⟩
        exact hd hbd
    · rw [values_add_of_none hplace]
      exact List.nodup_append_comm.mp
        (List.nodup_cons.mpr ⟨h.not_mem_of_place? hplace, h.nodup⟩)

/-- **A tally is indexed and counts as without digests**, whatever the
digest is. -/
theorem ofList_spec (digest : α → UInt64) (values : List α) :
    Indexed digest (ofList digest values)
      ∧ (ofList digest values).toList = occurrences values := by
  induction values using List.reverseRecOn with
  | nil => exact ⟨indexed_empty, rfl⟩
  | append_singleton values a ih =>
    obtain ⟨hindexed, htoList⟩ := ih
    have hlast : ofList digest (values ++ [a]) = Tally.add digest (ofList digest values) a := by
      simp [ofList]
    rw [hlast]
    exact ⟨hindexed.add a, by rw [hindexed.toList_add, htoList, countOne_occurrences]⟩

end HostMetrics.Tally
