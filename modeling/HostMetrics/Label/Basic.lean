import HostMetrics.Text.Numeral

/-!
# Label sets

A measurement carries labels, values under keys. A label set is kept as
the list of its entries with the keys strictly ascending, so that each set
of labels is one value: two sets with the same labels are equal however
they were made, and so are their texts and digests. Keys are ordered by
the bytes of their UTF-8 form.

`LabelSet.get?` is the view of a label set; the statements here tell
what each operation does to it, and `LabelSet.ext_get?` that nothing else
about a label set matters.
-/

namespace HostMetrics

open Text

/-- The value of a label. -/
inductive LabelValue where
  /-- An integer of 64 bits. -/
  | int (value : Int64)
  /-- A text. -/
  | str (value : String)
deriving DecidableEq, Repr

/-- The bytes of a text in UTF-8. -/
def utf8 (s : String) : List UInt8 := s.toUTF8.data.toList

theorem utf8_injective {s t : String} (h : utf8 s = utf8 t) : s = t :=
  String.toByteArray_inj.mp (ByteArray.ext (Array.toList_inj.mp h))

/-- The order of keys, that of their bytes. -/
def KeyBefore (a b : String) : Prop := utf8 a < utf8 b

instance : DecidableRel KeyBefore := fun a b => inferInstanceAs (Decidable (utf8 a < utf8 b))

theorem KeyBefore.irrefl (a : String) : ¬ KeyBefore a a := List.lt_irrefl _

theorem KeyBefore.trans {a b c : String} (h₁ : KeyBefore a b) (h₂ : KeyBefore b c) :
    KeyBefore a c := List.lt_trans h₁ h₂

theorem KeyBefore.ne {a b : String} (h : KeyBefore a b) : a ≠ b :=
  fun e => KeyBefore.irrefl b (e ▸ h)

/-- Of two different keys one comes before the other. -/
theorem keyBefore_of_not {a b : String} (h₁ : ¬ KeyBefore a b) (h₂ : a ≠ b) : KeyBefore b a :=
  Decidable.byContradiction fun h₃ =>
    h₂ (utf8_injective (Std.Trichotomous.trichotomous (r := (· < ·)) _ _ h₁ h₃))

namespace LabelValue

/-- A natural number as a value. One from `2 ^ 63` on wraps around. -/
def ofNat (n : Nat) : LabelValue := int (Int64.ofNat n)

/-- The text of a value. -/
def display : LabelValue → String
  | int n => String.ofList (signedDecimal n.toInt)
  | str s => s

/-- The order of values: integers by size, then texts by their bytes. -/
def compare : LabelValue → LabelValue → Ordering
  | int m, int n => Ord.compare m.toInt n.toInt
  | int _, str _ => .lt
  | str _, int _ => .gt
  | str s, str t => if KeyBefore s t then .lt else if s = t then .eq else .gt

end LabelValue

/-! ## Entries in order -/

/-- A label: its key and its value. -/
abbrev Label := String × LabelValue

/-- The entries with `key` set to `value`. -/
def setEntry (key : String) (value : LabelValue) : List Label → List Label
  | [] => [(key, value)]
  | (k, v) :: rest =>
    if KeyBefore key k then (key, value) :: (k, v) :: rest
    else if key = k then (key, value) :: rest
    else (k, v) :: setEntry key value rest

theorem fst_mem_setEntry {key : String} {value : LabelValue} {entries : List Label}
    {e : Label} (h : e ∈ setEntry key value entries) : e.1 = key ∨ e ∈ entries := by
  induction entries with
  | nil => simp_all [setEntry]
  | cons p rest ih =>
    simp only [setEntry] at h
    split at h
    · simp only [List.mem_cons] at h ⊢
      rcases h with rfl | h
      · exact .inl rfl
      · exact .inr h
    split at h
    · simp only [List.mem_cons] at h ⊢
      rcases h with rfl | h
      · exact .inl rfl
      · exact .inr (.inr h)
    · simp only [List.mem_cons] at h ⊢
      rcases h with rfl | h
      · exact .inr (.inl rfl)
      · rcases ih h with h | h
        · exact .inl h
        · exact .inr (.inr h)

/-- Entries in the order of their keys, no key twice. -/
def Ascending (entries : List Label) : Prop :=
  entries.Pairwise fun a b => KeyBefore a.1 b.1

theorem Ascending.setEntry {key : String} {value : LabelValue} {entries : List Label}
    (h : Ascending entries) : Ascending (setEntry key value entries) := by
  induction entries with
  | nil => exact List.pairwise_singleton ..
  | cons p rest ih =>
    obtain ⟨k, v⟩ := p
    have hp := List.pairwise_cons.mp h
    simp only [HostMetrics.setEntry]
    split
    next hk =>
      refine List.pairwise_cons.mpr ⟨fun e he => ?_, h⟩
      rcases List.mem_cons.mp he with rfl | he
      · exact hk
      · exact hk.trans (hp.1 e he)
    next hk =>
      split
      next he =>
        subst he
        exact List.pairwise_cons.mpr ⟨hp.1, hp.2⟩
      next hne =>
        refine List.pairwise_cons.mpr ⟨fun e he => ?_, ih hp.2⟩
        rcases fst_mem_setEntry he with he | he
        · rw [he]
          exact keyBefore_of_not hk hne
        · exact hp.1 e he

/-- The value of the first entry with the given key. -/
def valueOf? : List Label → String → Option LabelValue
  | [], _ => none
  | (k, v) :: rest, key => if key = k then some v else valueOf? rest key

@[simp] theorem valueOf?_nil (key : String) : valueOf? [] key = none := rfl

@[simp] theorem valueOf?_cons (p : Label) (rest : List Label) (key : String) :
    valueOf? (p :: rest) key = if key = p.1 then some p.2 else valueOf? rest key := rfl

theorem valueOf?_setEntry (key : String) (value : LabelValue) (entries : List Label)
    (k : String) :
    valueOf? (setEntry key value entries) k
      = if k = key then some value else valueOf? entries k := by
  induction entries with
  | nil => rfl
  | cons p rest ih =>
    obtain ⟨k', v'⟩ := p
    simp only [setEntry]
    split
    · rfl
    split
    next he =>
      subst he
      by_cases h : k = key <;> simp [h]
    next hne =>
      by_cases h : k = k'
      · subst h
        simp [show k ≠ key from fun e => hne e.symm]
      · simp [h, ih]

/-! ## The type -/

/-- A set of labels. -/
structure LabelSet where
  /-- The labels, in the order of their keys. -/
  entries : List Label
  /-- The keys ascend strictly. -/
  ascending : Ascending entries

namespace LabelSet

/-- The set without labels. -/
def empty : LabelSet := ⟨[], List.Pairwise.nil⟩

/-- The set with `key` set to `value`, whether it had a value before or not. -/
def insert (s : LabelSet) (key : String) (value : LabelValue) : LabelSet :=
  ⟨setEntry key value s.entries, s.ascending.setEntry⟩

/-- The set with labels set one after the other. -/
def extend (s : LabelSet) (labels : List Label) : LabelSet :=
  labels.foldl (fun s label => s.insert label.1 label.2) s

/-- The set of the given labels, of which a later one replaces an earlier
one with its key. -/
def ofList (labels : List Label) : LabelSet := empty.extend labels

/-- The value under a key. -/
def get? (s : LabelSet) (key : String) : Option LabelValue := valueOf? s.entries key

/-- The value under a key, if it is a text. -/
def getText? (s : LabelSet) (key : String) : Option String :=
  match s.get? key with
  | some (.str text) => some text
  | _ => none

/-- The number of labels. -/
def size (s : LabelSet) : Nat := s.entries.length

/-- The order of label sets: the first label that differs decides, by its
key and then by its value, and a set that ends earlier comes first. -/
def compareEntries : List Label → List Label → Ordering
  | [], [] => .eq
  | [], _ :: _ => .lt
  | _ :: _, [] => .gt
  | (k, v) :: rest, (k', v') :: rest' =>
    if KeyBefore k k' then .lt
    else if k = k' then (v.compare v').then (compareEntries rest rest')
    else .gt

/-- The order of two label sets. -/
def compare (s t : LabelSet) : Ordering := compareEntries s.entries t.entries

@[simp] theorem get?_insert (s : LabelSet) (key : String) (value : LabelValue) (k : String) :
    (s.insert key value).get? k = if k = key then some value else s.get? k :=
  valueOf?_setEntry ..

@[simp] theorem extend_cons (s : LabelSet) (label : Label) (labels : List Label) :
    s.extend (label :: labels) = (s.insert label.1 label.2).extend labels := rfl

theorem get?_extend (s : LabelSet) {labels : List Label} (h : (labels.map Prod.fst).Nodup)
    (key : String) : (s.extend labels).get? key = (labels.lookup key).or (s.get? key) := by
  induction labels generalizing s with
  | nil => rfl
  | cons label labels ih =>
    obtain ⟨hlabel, hlabels⟩ := List.nodup_cons.mp h
    rw [extend_cons, ih _ hlabels, get?_insert, List.lookup_cons]
    by_cases hkey : key = label.1
    · have hnone : labels.lookup key = none := by
        refine List.lookup_eq_none_iff.mpr fun other hother => bne_iff_ne.mpr fun heq => ?_
        exact hlabel (hkey ▸ heq ▸ List.mem_map_of_mem hother)
      simp [hkey, hkey ▸ hnone]
    · rw [if_neg hkey, beq_false_of_ne hkey]

theorem ext {s t : LabelSet} (h : s.entries = t.entries) : s = t := by
  cases s
  cases t
  cases h
  rfl

theorem valueOf?_eq_none {entries : List Label} {key : String}
    (h : ∀ e ∈ entries, KeyBefore key e.1) : valueOf? entries key = none := by
  induction entries with
  | nil => rfl
  | cons p rest ih =>
    have hne := (h p (List.mem_cons_self ..)).ne
    rw [valueOf?_cons, ite_cond_eq_false _ _ (eq_false hne)]
    exact ih fun e he => h e (List.mem_cons_of_mem _ he)

theorem not_keyBefore_of_valueOf? {p p' : Label} {rest rest' : List Label}
    (h' : Ascending (p' :: rest'))
    (hv : ∀ key, valueOf? (p :: rest) key = valueOf? (p' :: rest') key) :
    ¬ KeyBefore p.1 p'.1 := by
  intro hb
  have hn : valueOf? (p' :: rest') p.1 = none := by
    refine valueOf?_eq_none fun e he => ?_
    rcases List.mem_cons.mp he with rfl | he
    · exact hb
    · exact hb.trans ((List.pairwise_cons.mp h').1 e he)
  have := (hv p.1).trans hn
  simp at this

theorem entries_eq_of_valueOf? {entries entries' : List Label} (h : Ascending entries)
    (h' : Ascending entries') (hv : ∀ key, valueOf? entries key = valueOf? entries' key) :
    entries = entries' := by
  induction entries generalizing entries' with
  | nil =>
    cases entries' with
    | nil => rfl
    | cons p rest =>
      have := hv p.1
      simp at this
  | cons p rest ih =>
    cases entries' with
    | nil =>
      have := hv p.1
      simp at this
    | cons p' rest' =>
      have hp := List.pairwise_cons.mp h
      have hp' := List.pairwise_cons.mp h'
      have hk : p.1 = p'.1 := Decidable.byContradiction fun hne =>
        not_keyBefore_of_valueOf? h (fun key => (hv key).symm)
          (keyBefore_of_not (not_keyBefore_of_valueOf? h' hv) hne)
      have hval : p.2 = p'.2 := by
        have := hv p.1
        simpa [hk] using this
      have htail : rest = rest' := by
        refine ih hp.2 hp'.2 fun key => ?_
        by_cases hkey : key = p.1
        · rw [hkey, valueOf?_eq_none hp.1, hk, valueOf?_eq_none hp'.1]
        · have := hv key
          have hkey' : key ≠ p'.1 := hk ▸ hkey
          simpa [hkey, hkey'] using this
      rw [htail, Prod.ext hk hval]

/-- Label sets are equal iff they have the same value under every key. -/
theorem ext_get? {s t : LabelSet} (h : ∀ key, s.get? key = t.get? key) : s = t :=
  ext (entries_eq_of_valueOf? s.ascending t.ascending h)

/-- Labels under different keys may be set in either order. -/
theorem insert_comm (s : LabelSet) {k l : String} (h : k ≠ l) (v w : LabelValue) :
    (s.insert k v).insert l w = (s.insert l w).insert k v := by
  refine ext_get? fun key => ?_
  rw [get?_insert, get?_insert, get?_insert, get?_insert]
  by_cases hk : key = k
  · rw [if_pos hk, if_pos hk, if_neg fun hl => h (hk.symm.trans hl)]
  · rw [if_neg hk, if_neg hk]

/-- Labels may be set in any order, as long as no two of them are under one
key. -/
theorem extend_perm (s : LabelSet) {labels labels' : List Label} (h : labels.Perm labels')
    (hkeys : ∀ a ∈ labels, ∀ b ∈ labels, a.1 = b.1 → a = b) :
    s.extend labels = s.extend labels' := by
  refine h.foldl_eq' (fun a ha b hb t => ?_) s
  by_cases hab : a.1 = b.1
  · rw [hkeys a ha b hb hab]
  · exact t.insert_comm hab a.2 b.2

instance : DecidableEq LabelSet := fun s t =>
  decidable_of_iff (s.entries = t.entries) ⟨ext, fun h => h ▸ rfl⟩

end LabelSet

end HostMetrics
