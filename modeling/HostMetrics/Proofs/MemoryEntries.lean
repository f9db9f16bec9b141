import HostMetrics.Proc.MemoryTable
import HostMetrics.Proofs.Cuts
import HostMetrics.Proofs.Numerals

/-!
# What a memory table says

A line of a memory table is an entry if it has a key, a colon and a number of
64 bits behind it (`IsEntry`). Of the entries with one key the last counts.
Twelve keys are known, one of them has to be there, and each number of the
table is that of the last entry with its own key (`IsTable`).

So the table depends on nothing but the entries of each known key, each key
taken for itself (`MemoryTable.parse_congr`). A line that is no entry, or has a
key that is not known, or one that only looks like a known key, can stand
anywhere, and entries with different keys can change places
(`MemoryTable.last_entries_tell`). In particular a key that is repeated with a
broken number keeps the number it had.
-/

namespace HostMetrics.Proc

open Text

/-- **An entry**: a key before the first colon of the line, blanks around it
aside, and the first column behind the colon a number of 64 bits. -/
def IsEntry (line : List Char) (key : String) (n : Nat) : Prop :=
  ∃ before after first further, line = before ++ ':' :: after ∧ ':' ∉ before
    ∧ trim before = key.toList ∧ columns after = first :: further
    ∧ IsNumeral 10 first n ∧ n < wordLimit

/-- An entry of a key, whatever its number is. -/
def HasKey (key : String) (line : List Char) : Prop := ∃ n, IsEntry line key n

namespace MemoryTable

variable {line : List Char} {ls ls' : List (List Char)} {key : String} {n : Nat}

/-! ## Entries -/

/-- **A line is read as the entry that it is.** -/
theorem entry?_eq_some_iff : entry? line = some (key.toList, n) ↔ IsEntry line key n := by
  simp only [Option.bind_eq_some_iff, entry?, Option.map_eq_some_iff, Prod.exists,
    cutAt_eq_some_iff, word?_eq_some_iff, List.head?_eq_some_iff, Prod.mk.injEq]
  constructor
  · rintro ⟨before, after, ⟨hline, hbefore⟩, m, ⟨first, ⟨further, hafter⟩, hm⟩, hkey, rfl⟩
    exact ⟨before, after, first, further, hline, hbefore, hkey, hafter, hm⟩
  · rintro ⟨before, after, first, further, hline, hbefore, hkey, hafter, hn⟩
    exact ⟨before, after, ⟨hline, hbefore⟩, n, ⟨first, ⟨further, hafter⟩, hn⟩, hkey, rfl⟩

theorem hasKey_iff : (Option.map Prod.fst <| entry? line) = some key.toList ↔ HasKey key line := by
  simp only [HasKey, ← entry?_eq_some_iff, Option.map_eq_some_iff, Prod.exists]
  exact exists_comm.trans (exists_congr fun n => exists_eq_right)

instance (key : String) (line : List Char) : Decidable (HasKey key line) :=
  decidable_of_iff _ hasKey_iff

/-- **The entries of a key**, in the order of their lines. -/
def entriesOf (key : String) (ls : List (List Char)) : List (List Char) :=
  ls.filter fun line => HasKey key line

theorem entriesOf_append (key : String) (ls ls' : List (List Char)) :
    entriesOf key (ls ++ ls') = entriesOf key ls ++ entriesOf key ls' :=
  List.filter_append ls ls'

theorem entriesOf_singleton (key : String) (line : List Char) :
    entriesOf key [line] = if HasKey key line then [line] else [] := by
  by_cases h : HasKey key line <;> simp [entriesOf, h]

/-- **The number of the last entry of a key.** -/
def IsLast (ls : List (List Char)) (key : String) (n : Nat) : Prop :=
  ∃ line, (entriesOf key ls).getLast? = some line ∧ IsEntry line key n

/-- An optional number of a table: it is told iff its key has an entry. -/
def Tells (ls : List (List Char)) (key : String) (told : Option Nat) : Prop :=
  ∀ n, told = some n ↔ IsLast ls key n

/-- A number of a table that is zero if its key has no entry. -/
def TellsOrZero (ls : List (List Char)) (key : String) (n : Nat) : Prop :=
  IsLast ls key n ∨ (¬ ∃ m, IsLast ls key m) ∧ n = 0

/-- **The table that lines describe.** -/
structure IsTable (ls : List (List Char)) (t : MemoryTable) : Prop where
  /-- The size of the memory has to be told. -/
  total : IsLast ls "MemTotal" t.total
  /-- Free memory. -/
  free : TellsOrZero ls "MemFree" t.free
  /-- The estimate of what new programs can have. -/
  available : Tells ls "MemAvailable" t.available
  /-- Buffers of block devices. -/
  buffers : TellsOrZero ls "Buffers" t.buffers
  /-- The page cache. -/
  cached : TellsOrZero ls "Cached" t.cached
  /-- Recently used memory. -/
  active : Tells ls "Active" t.active
  /-- Memory that was not used recently. -/
  inactive : Tells ls "Inactive" t.inactive
  /-- The size of the swap space. -/
  swapTotal : TellsOrZero ls "SwapTotal" t.swapTotal
  /-- Free swap space. -/
  swapFree : TellsOrZero ls "SwapFree" t.swapFree
  /-- Shared memory. -/
  shared : Tells ls "Shmem" t.shared
  /-- The kernel's own data structures. -/
  slab : Tells ls "Slab" t.slab
  /-- The part of them that the kernel can give back. -/
  reclaimable : Tells ls "SReclaimable" t.reclaimable

/-- The keys of the table. -/
def keys : List String :=
  ["MemTotal", "MemFree", "MemAvailable", "Buffers", "Cached", "Active", "Inactive", "SwapTotal",
    "SwapFree", "Shmem", "Slab", "SReclaimable"]

/-! ## The last entry of a key -/

/-- The last line tells the number of a key if it is an entry of it, and the
lines before it do otherwise. -/
theorem lastOf?_concat (ls : List (List Char)) (line : List Char) (key : String) :
    lastOf? ((ls ++ [line]).filterMap entry?) key
      = if HasKey key line then Option.map Prod.snd <| entry? line
        else lastOf? (ls.filterMap entry?) key := by
  unfold lastOf?
  rw [List.filterMap_append, List.reverse_append, List.lookup_append]
  cases hline : entry? line with
  | none =>
    have hkey : ¬ HasKey key line := by rw [← hasKey_iff, hline]; exact fun h => nomatch h
    rw [List.filterMap_cons_none hline, if_neg hkey]
    rfl
  | some entry =>
    have hkey : HasKey key line ↔ entry.1 = key.toList := by
      rw [← hasKey_iff, hline, Option.map_some, Option.some.injEq]
    rw [List.filterMap_cons_some hline]
    show (List.lookup key.toList [entry]).or _ = _
    rw [List.lookup_cons]
    by_cases h : HasKey key line
    · rw [if_pos h, hkey.mp h, beq_self_eq_true]
      rfl
    · rw [if_neg h, beq_false_of_ne (Ne.symm (mt hkey.mpr h))]
      rfl

/-- **What is looked up is the number of the last entry.** -/
theorem lastOf?_eq_some_iff : lastOf? (ls.filterMap entry?) key = some n ↔ IsLast ls key n := by
  unfold IsLast
  induction ls using List.reverseRecOn with
  | nil => simp [lastOf?, entriesOf]
  | append_singleton ls line ih =>
    rw [lastOf?_concat, entriesOf_append, entriesOf_singleton]
    by_cases hkey : HasKey key line
    · obtain ⟨m, hm⟩ := id hkey
      rw [if_pos hkey, if_pos hkey, List.getLast?_concat, entry?_eq_some_iff.mpr hm]
      simp [← entry?_eq_some_iff, entry?_eq_some_iff.mpr hm]
    · rw [if_neg hkey, if_neg hkey, List.append_nil, ih]

theorem tells_iff {told : Option Nat} :
    Tells ls key told ↔ lastOf? (ls.filterMap entry?) key = told := by
  unfold Tells
  simp only [← lastOf?_eq_some_iff]
  exact ⟨fun h => Option.ext fun n => (h n).symm, fun h n => h ▸ Iff.rfl⟩

theorem tellsOrZero_iff :
    TellsOrZero ls key n ↔ (lastOf? (ls.filterMap entry?) key).getD 0 = n := by
  unfold TellsOrZero
  simp only [← lastOf?_eq_some_iff]
  cases lastOf? (ls.filterMap entry?) key with
  | none => simp [eq_comm]
  | some m => simp

/-- A key has a last entry iff it has an entry. -/
theorem exists_isLast_iff : (∃ n, IsLast ls key n) ↔ ∃ line ∈ ls, HasKey key line := by
  constructor
  · rintro ⟨n, line, hlast, hline⟩
    exact ⟨line, (List.mem_filter.mp (List.mem_of_getLast? hlast)).1, n, hline⟩
  · rintro ⟨line, hline, hkey⟩
    have hmem : line ∈ entriesOf key ls := List.mem_filter.mpr ⟨hline, decide_eq_true hkey⟩
    have hlast := List.getLast?_eq_some_getLast (List.ne_nil_of_mem hmem)
    obtain ⟨n, hn⟩ := of_decide_eq_true (List.mem_filter.mp (List.mem_of_getLast? hlast)).2
    exact ⟨n, _, hlast, hn⟩

/-! ## Tables -/

/-- **Lines are read as the table that they describe.** -/
theorem ofEntries_eq_ok_iff {t : MemoryTable} :
    ofEntries (ls.filterMap entry?) = .ok t ↔ IsTable ls t := by
  unfold ofEntries
  constructor
  · intro h
    split at h
    · cases h
    next total htotal =>
      cases h
      constructor
      case total => exact lastOf?_eq_some_iff.mp htotal
      all_goals first | exact tells_iff.mpr rfl | exact tellsOrZero_iff.mpr rfl
  · intro h
    rw [lastOf?_eq_some_iff.mpr h.total, tellsOrZero_iff.mp h.free, tells_iff.mp h.available,
      tellsOrZero_iff.mp h.buffers, tellsOrZero_iff.mp h.cached, tells_iff.mp h.active,
      tells_iff.mp h.inactive, tellsOrZero_iff.mp h.swapTotal, tellsOrZero_iff.mp h.swapFree,
      tells_iff.mp h.shared, tells_iff.mp h.slab, tells_iff.mp h.reclaimable]

theorem ofEntries_eq_error_iff {cause : FormatError} :
    ofEntries (ls.filterMap entry?) = .error cause
      ↔ cause = .noMemoryTotal ∧ ¬ ∃ line ∈ ls, HasKey "MemTotal" line := by
  rw [← exists_isLast_iff]
  simp only [← lastOf?_eq_some_iff]
  unfold ofEntries
  cases lastOf? (ls.filterMap entry?) "MemTotal" with
  | none => simp [eq_comm]
  | some total => simp

/-- **Only the entries of the known keys matter**, those of each key by
themselves. -/
theorem ofEntries_congr (h : ∀ key ∈ keys, entriesOf key ls = entriesOf key ls') :
    ofEntries (ls.filterMap entry?) = ofEntries (ls'.filterMap entry?) := by
  have hlast : ∀ key ∈ keys,
      lastOf? (ls.filterMap entry?) key = lastOf? (ls'.filterMap entry?) key := by
    intro key hkey
    refine Option.ext fun n => ?_
    rw [lastOf?_eq_some_iff, lastOf?_eq_some_iff, IsLast, IsLast, h key hkey]
  simp only [keys, List.forall_mem_cons] at hlast
  obtain ⟨h1, h2, h3, h4, h5, h6, h7, h8, h9, h10, h11, h12, -⟩ := hlast
  simp only [ofEntries, h1, h2, h3, h4, h5, h6, h7, h8, h9, h10, h11, h12]

/-- Lines that are not both entries of one key can change places. -/
theorem entriesOf_swap {a b : List Char} (h : ¬ (HasKey key a ∧ HasKey key b)) :
    entriesOf key [a, b] = entriesOf key [b, a] := by
  have ha := entriesOf_append key [a] [b]
  have hb := entriesOf_append key [b] [a]
  rw [entriesOf_singleton, entriesOf_singleton] at ha hb
  show entriesOf key ([a] ++ [b]) = entriesOf key ([b] ++ [a])
  rw [ha, hb]
  by_cases hkey : HasKey key a
  · rw [if_neg fun hb => h ⟨hkey, hb⟩, List.append_nil, List.nil_append]
  · rw [if_neg hkey, List.append_nil, List.nil_append]

theorem parse_congr {text other : String} (h : ∀ key ∈ keys,
    entriesOf key (lines other.toList) = entriesOf key (lines text.toList)) :
    parse other = parse text :=
  ofEntries_congr h

/-- **The last entry of each key tells its number.** A text is a memory table iff
some line of it is an entry of the total, and then each number of the table is
that of the last entry of its key. Texts with the same entries of each known key
are the same table; so entries of different keys can change places, and lines
that are entries of no known key can be put in anywhere. -/
theorem last_entries_tell (text : String) :
    ((∃ t, parse text = .ok t) ↔ ∃ line ∈ lines text.toList, HasKey "MemTotal" line)
    ∧ (∀ t, parse text = .ok t ↔ IsTable (lines text.toList) t)
    ∧ (∀ cause, parse text = .error cause
        ↔ cause = .noMemoryTotal ∧ ¬ ∃ line ∈ lines text.toList, HasKey "MemTotal" line)
    ∧ (∀ other : String, (∀ key ∈ keys,
          entriesOf key (lines other.toList) = entriesOf key (lines text.toList)) →
        parse other = parse text)
    ∧ (∀ (other : String) (before : List (List Char)) (a b : List Char)
          (after : List (List Char)), lines text.toList = before ++ [a, b] ++ after →
        lines other.toList = before ++ [b, a] ++ after →
        (∀ key ∈ keys, ¬ (HasKey key a ∧ HasKey key b)) → parse other = parse text)
    ∧ ∀ (other : String) (before strays after : List (List Char)),
        lines text.toList = before ++ after → lines other.toList = before ++ strays ++ after →
        (∀ line ∈ strays, ∀ key ∈ keys, ¬ HasKey key line) → parse other = parse text := by
  refine ⟨?_, fun t => ofEntries_eq_ok_iff, fun cause => ofEntries_eq_error_iff,
    fun other => parse_congr, ?_, ?_⟩
  · -- a table is refused for want of the total only
    cases hparse : parse text with
    | ok t =>
      have hkey := exists_isLast_iff.mp ⟨_, (ofEntries_eq_ok_iff.mp hparse).total⟩
      exact iff_of_true ⟨t, rfl⟩ hkey
    | error cause =>
      have hnone := (ofEntries_eq_error_iff.mp hparse).2
      exact iff_of_false (fun ⟨_, h⟩ => nomatch h) hnone
  · intro other before a b after htext hother hswap
    refine parse_congr fun key hkey => ?_
    rw [htext, hother, entriesOf_append, entriesOf_append, entriesOf_append, entriesOf_append,
      entriesOf_swap (hswap key hkey)]
  · intro other before strays after htext hother hstrays
    refine parse_congr fun key hkey => ?_
    have hnone : entriesOf key strays = [] :=
      List.filter_eq_nil_iff.mpr fun line hline => by simpa using hstrays line hline key hkey
    rw [htext, hother, entriesOf_append, entriesOf_append, entriesOf_append, hnone,
      List.append_nil]

/-- A table of two entries. -/
def twoEntries : String := "MemTotal: 8 kB\nMemFree: 3 kB\n"

/-- The same table, with a broken number under the first key and with keys that
look like known ones. -/
def disturbedEntries : String :=
  "MemTotal: 8 kB\nMemTotal: x kB\nSwapCached: 2 kB\nActive(anon): 1 kB\nMemFree: 3 kB\n"

/-- Neither the broken number nor the other keys make a difference, and neither
does the order of the entries. -/
theorem last_entries_tell_disturbed :
    parse twoEntries = .ok ⟨8, 3, none, 0, 0, none, none, 0, 0, none, none, none⟩
    ∧ (∀ key ∈ keys, entriesOf key (lines disturbedEntries.toList)
        = entriesOf key (lines twoEntries.toList))
    ∧ parse disturbedEntries = parse twoEntries
    ∧ parse "MemFree: 3 kB\nMemTotal: 8 kB\n" = parse twoEntries
    ∧ parse "MemTotal: 8 kB\nMemFree: 3 kB\nMemFree: -1 kB\n" = parse twoEntries := by
  obtain ⟨-, -, -, hsame, hswap, hinsert⟩ := last_entries_tell twoEntries
  have hentries : ∀ key ∈ keys, entriesOf key (lines disturbedEntries.toList)
      = entriesOf key (lines twoEntries.toList) := by
    decide +kernel
  refine ⟨by decide +kernel, hentries, hsame _ hentries, ?_, ?_⟩
  · exact hswap _ [] "MemTotal: 8 kB".toList "MemFree: 3 kB".toList [] (by decide +kernel)
      (by decide +kernel) (by decide +kernel)
  · exact hinsert _ ["MemTotal: 8 kB".toList, "MemFree: 3 kB".toList] ["MemFree: -1 kB".toList] []
      (by decide +kernel) (by decide +kernel) (by decide +kernel)

end MemoryTable

end HostMetrics.Proc
