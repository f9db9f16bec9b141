import HostMetrics.Files.Table
import HostMetrics.Proofs.Sequence
import HostMetrics.Source.Kernel

/-!
# The memory of the system in bytes

The memory table counts in kibibytes, and what is told of it is bytes, so
every number of it is taken 1024 times and has to fit 64 bits after that
(`Guarded`). Before that comes a sum: what is free, buffered or cached, the
cache taken with what the kernel can give back. It is formed for every table,
also for one that has an estimate of the available memory and needs no sum in
its place, so a table with an estimate can still abort by it.

The sum is looked at first and the products after it, and apart from these
two nothing can go wrong with a table that was read
(`KernelSource.memory_in_bytes`). What is in use is what is left of the total
after that sum, so the four parts make up the total as long as the sum is no
more than it, and what is in use is nothing if it is.
-/

namespace HostMetrics

open Proc Text

/-! ## Sums and products that fit -/

namespace Counter

theorem guarded_sum (ns : List Nat) :
    Guarded (exactSum ns < wordLimit) (exactSum ns) Abort.sumOverflow (sum ns) :=
  ⟨fun h => if_pos h, fun h => if_neg h⟩

theorem guarded_scaled (factor n : Nat) :
    Guarded (factor * n < wordLimit) (factor * n) Abort.productOverflow (scaled factor n) :=
  ⟨fun h => if_pos h, fun h => if_neg h⟩

theorem guarded_scaled? (factor : Nat) (n : Option Nat) :
    Guarded (∀ m ∈ n, factor * m < wordLimit) (n.map (factor * ·)) Abort.productOverflow
      (scaled? factor n) := by
  cases n with
  | none => exact (guarded_pure none _).congr (by simp)
  | some m =>
    have hscaled := guarded_scaled factor m
    constructor
    · intro h
      rw [scaled?, hscaled.ok (h m rfl)]
      rfl
    · intro h
      rw [scaled?, hscaled.error fun hm => h fun k hk => Option.some.inj hk ▸ hm]
      rfl

end Counter

/-! ## The numbers of a memory table -/

namespace Proc.MemoryTable

/-- The page cache, with what the kernel can give back of its own
structures. -/
def cache (t : MemoryTable) : Nat := t.cached + t.reclaimable.getD 0

/-- **What is free, buffered or cached.** -/
def reserve (t : MemoryTable) : Nat := t.free + t.buffers + t.cache

/-- What new programs can have: the kernel's estimate, or else the reserve. -/
def obtainable (t : MemoryTable) : Nat := t.available.getD t.reserve

/-- **The numbers of a table that are told**, in kibibytes. What is in use is
not among them, as it is no more than the total. -/
def told (t : MemoryTable) : List Nat :=
  [t.total, t.free, t.obtainable, t.buffers, t.cache]
    ++ (t.shared.toList ++ t.slab.toList ++ t.active.toList ++ t.inactive.toList)

/-- **The memory that a table tells**, in bytes. -/
def inBytes (t : MemoryTable) : MemoryUse where
  total := 1024 * t.total
  used := some (1024 * (t.total - t.reserve))
  free := some (1024 * t.free)
  available := some (1024 * t.obtainable)
  buffers := some (1024 * t.buffers)
  cached := some (1024 * t.cache)
  shared := t.shared.map (1024 * ·)
  slab := t.slab.map (1024 * ·)
  active := t.active.map (1024 * ·)
  inactive := t.inactive.map (1024 * ·)

end Proc.MemoryTable

namespace KernelSource

variable {s : KernelSource} {t : MemoryTable}

theorem cached_sum_eq (t : MemoryTable) :
    Counter.exactSum [t.cached, t.reclaimable.getD 0] = t.cache := rfl

theorem reserve_sum_eq (t : MemoryTable) :
    Counter.exactSum [t.free, t.buffers, t.cache] = t.reserve := by
  simp [Counter.exactSum, MemoryTable.reserve, Nat.add_assoc]

/-- **A reserve that does not fit** aborts, and it is looked at first. -/
theorem memoryOf_of_large (h : wordLimit ≤ t.reserve) : memoryOf t = .error .sumOverflow := by
  have hcached := Counter.guarded_sum [t.cached, t.reclaimable.getD 0]
  have hreserve := Counter.guarded_sum [t.free, t.buffers, t.cache]
  rw [cached_sum_eq] at hcached
  rw [reserve_sum_eq] at hreserve
  unfold memoryOf
  by_cases hcache : t.cache < wordLimit
  · rw [hcached.ok hcache, ok_bind, hreserve.error (Nat.not_lt.mpr h), error_bind]
  · rw [hcached.error hcache, error_bind]

/-- Behind a reserve that fits, all that can fail is a product. -/
theorem guarded_memoryOf (h : t.reserve < wordLimit) :
    Guarded (∀ n ∈ t.told, 1024 * n < wordLimit) t.inBytes Abort.productOverflow
      (memoryOf t) := by
  have hcache : t.cache < wordLimit := Nat.lt_of_le_of_lt (Nat.le_add_left _ _) h
  have hcached := (Counter.guarded_sum [t.cached, t.reclaimable.getD 0]).ok hcache
  have hreserve := (Counter.guarded_sum [t.free, t.buffers, t.cache]).ok
    ((reserve_sum_eq t).symm ▸ h)
  have hused : t.total - t.free - t.buffers - t.cache = t.total - t.reserve := by
    unfold MemoryTable.reserve
    omega
  unfold memoryOf
  rw [hcached, cached_sum_eq, ok_bind, hreserve, reserve_sum_eq, ok_bind, hused]
  refine Guarded.congr
    ((Counter.guarded_scaled 1024 t.total).bind <|
      (Counter.guarded_scaled 1024 (t.total - t.reserve)).bind <|
      (Counter.guarded_scaled 1024 t.free).bind <|
      (Counter.guarded_scaled 1024 t.obtainable).bind <|
      (Counter.guarded_scaled 1024 t.buffers).bind <|
      (Counter.guarded_scaled 1024 t.cache).bind <|
      (Counter.guarded_scaled? 1024 t.shared).bind <|
      (Counter.guarded_scaled? 1024 t.slab).bind <|
      (Counter.guarded_scaled? 1024 t.active).bind <|
      (Counter.guarded_scaled? 1024 t.inactive).bind <|
      guarded_pure t.inBytes Abort.productOverflow) ?_
  have hless : 1024 * t.total < wordLimit → 1024 * (t.total - t.reserve) < wordLimit :=
    Nat.lt_of_le_of_lt (Nat.mul_le_mul_left 1024 (Nat.sub_le _ _))
  simp only [MemoryTable.told, List.mem_append, List.mem_cons, Option.mem_toList, Option.mem_def,
    or_imp, forall_and, forall_eq, List.not_mem_nil, false_imp_iff, and_true, and_assoc]
  constructor
  · rintro ⟨htotal, -, hothers⟩
    exact ⟨htotal, hothers⟩
  · rintro ⟨htotal, hothers⟩
    exact ⟨htotal, hless htotal, hothers⟩

/-! ## What becomes of a table -/

theorem memoryTable_eq_ok : s.memoryTable = .ok t ↔ ∃ content,
    s.files.read (s.path "meminfo") = .ok content ∧ MemoryTable.parse content = .ok t := by
  unfold memoryTable
  rw [bind_eq_ok]
  exact exists_congr fun content => and_congr text_eq_ok formatted_eq_ok

/-- What is in use is never more than all, and with what is free, buffered or
cached it is all, unless these alone are more. -/
theorem parts_of_inBytes (t : MemoryTable) :
    ∃ used free buffers cached, t.inBytes.used = some used ∧ t.inBytes.free = some free
      ∧ t.inBytes.buffers = some buffers ∧ t.inBytes.cached = some cached
      ∧ used ≤ t.inBytes.total
      ∧ (t.reserve ≤ t.total → used + free + buffers + cached = t.inBytes.total) := by
  refine ⟨_, _, _, _, rfl, rfl, rfl, rfl, ?_, fun h => ?_⟩
  · exact Nat.mul_le_mul_left 1024 (Nat.sub_le _ _)
  · show 1024 * (t.total - t.reserve) + 1024 * t.free + 1024 * t.buffers + 1024 * t.cache
      = 1024 * t.total
    unfold MemoryTable.reserve at h ⊢
    omega

/-- **A memory table is told in bytes, unless its reserve or a product does
not fit.** -/
theorem memory_in_bytes {content : String}
    (hread : s.files.read (s.path "meminfo") = .ok content)
    (hparse : MemoryTable.parse content = .ok t) :
    (s.memory = .error (.abort .sumOverflow) ↔ wordLimit ≤ t.free + t.buffers + t.cache)
    ∧ (s.memory = .error (.abort .productOverflow)
        ↔ t.free + t.buffers + t.cache < wordLimit ∧ ∃ n ∈ t.told, wordLimit ≤ 1024 * n)
    ∧ (∀ memory, s.memory = .ok memory
        ↔ t.free + t.buffers + t.cache < wordLimit ∧ (∀ n ∈ t.told, 1024 * n < wordLimit)
          ∧ memory = t.inBytes)
    ∧ ∀ memory, s.memory = .ok memory →
        ∃ used free buffers cached, memory.used = some used ∧ memory.free = some free
          ∧ memory.buffers = some buffers ∧ memory.cached = some cached ∧ used ≤ memory.total
          ∧ (t.free + t.buffers + t.cache ≤ t.total →
              used + free + buffers + cached = memory.total) := by
  have hmemory : s.memory = Failure.ofAbort (memoryOf t) := by
    unfold memory
    rw [memoryTable_eq_ok.mpr ⟨content, hread, hparse⟩, ok_bind]
  rw [hmemory]
  by_cases hreserve : t.reserve < wordLimit
  · have hproducts := (guarded_memoryOf hreserve).ofAbort (ε := ReadError)
    refine ⟨?_, ?_, fun memory => ?_, fun memory h => ?_⟩
    · rw [hproducts.error_iff]
      exact iff_of_false (fun h => nomatch h.2) (Nat.not_le.mpr hreserve)
    · rw [hproducts.error_iff]
      simp only [not_forall, exists_prop, Nat.not_lt, and_true]
      exact (and_iff_right hreserve).symm
    · rw [hproducts.ok_iff]
      exact (and_iff_right hreserve).symm
    · obtain ⟨-, rfl⟩ := hproducts.ok_iff.mp h
      exact parts_of_inBytes t
  · have hlarge := Nat.le_of_not_lt hreserve
    rw [memoryOf_of_large hlarge]
    refine ⟨iff_of_true rfl hlarge, ?_, fun memory => ?_, fun memory h => nomatch h⟩
    · exact iff_of_false (fun h => nomatch h) fun h => hreserve h.1
    · exact iff_of_false (fun h => nomatch h) fun h => hreserve h.1

/-- A source that shows a memory table and nothing else. -/
def showingMemory (content : String) : KernelSource :=
  ⟨(FileTable.empty.write "/proc/meminfo" content).files, "/proc", none⟩

/-- A table with an estimate of the available memory, in which the largest
counter is free and one kibibyte buffered. -/
def estimatedTable : String :=
  "MemTotal: 16 kB\nMemFree: 18446744073709551615 kB\nMemAvailable: 9 kB\nBuffers: 1 kB\n"

/-- A table in which more is free, buffered or cached than there is in all. -/
def crowdedTable : String :=
  "MemTotal: 16 kB\nMemFree: 9 kB\nCached: 7 kB\nBuffers: 2 kB\nSReclaimable: 1 kB\nSlab: 3 kB\n"

/-- An estimate does not keep the reserve from being summed up, and a reserve
of more than the total leaves nothing in use. -/
theorem memory_in_bytes_at_the_edge :
    (showingMemory estimatedTable).memory = .error (.abort .sumOverflow)
    ∧ (showingMemory crowdedTable).memory = .ok {
        total := 16384, used := some 0, free := some 9216, available := some 19456
        buffers := some 2048, cached := some 8192, shared := none, slab := some 3072
        active := none, inactive := none } := by
  have hestimated : MemoryTable.parse estimatedTable
      = .ok ⟨16, 18446744073709551615, some 9, 1, 0, none, none, 0, 0, none, none, none⟩ := by
    decide +kernel
  have hcrowded : MemoryTable.parse crowdedTable
      = .ok ⟨16, 9, none, 2, 7, none, none, 0, 0, none, some 3, some 1⟩ := by
    decide +kernel
  have hread : ∀ content ∈ [estimatedTable, crowdedTable],
      (showingMemory content).files.read ((showingMemory content).path "meminfo")
        = .ok content := by
    decide +kernel
  obtain ⟨hsum, -⟩ := memory_in_bytes (hread _ List.mem_cons_self) hestimated
  obtain ⟨-, -, hok, -⟩ :=
    memory_in_bytes (hread _ (List.mem_cons_of_mem _ List.mem_cons_self)) hcrowded
  exact ⟨hsum.mpr (by decide), (hok _).mpr (by decide)⟩

end KernelSource

end HostMetrics
