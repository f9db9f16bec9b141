import HostMetrics.Record.CpuTimes
import HostMetrics.Record.Device
import HostMetrics.Record.Memory
import HostMetrics.Record.Process
import HostMetrics.Text.Numeral
import Mathlib.Data.List.Nodup

/-!
# The fields of the records

A record is asked for its fields by name. This module lists, for each kind of
record, the names that there are, each with the part of the record that it
stands for. No name stands there twice, and a name that is not listed stands
for nothing, so that a look-up in the list is all that asking by name amounts
to (`MemoryUse.field?_eq` and its like).

A field that is a counter is measured as a number of 64 bits, the nearest one
(`lookup_counters`).
-/

namespace HostMetrics

/-! ## The lists -/

/-- Fields that are counters, each as the nearest number of 64 bits. -/
def counters (fields : List (String × Option Nat)) : List (String × Option Float) :=
  fields.map fun (name, n) => (name, n.map fun n => n.toUInt64.toFloat)

/-- The states of a CPU. -/
def CpuTimes.told (r : CpuTimes) : List (String × Option Float) :=
  [("user", r.time? .user), ("nice", r.time? .nice), ("system", r.time? .system),
    ("idle", r.time? .idle), ("iowait", r.time? .iowait), ("irq", r.time? .irq),
    ("softirq", r.time? .softirq), ("steal", r.time? .steal), ("guest", r.time? .guest),
    ("guest_nice", r.time? .guestNice)]

/-- The fields of the memory. -/
def MemoryUse.told (r : MemoryUse) : List (String × Option Nat) :=
  [("total", some r.total), ("used", r.used), ("free", r.free), ("available", r.available),
    ("buffers", r.buffers), ("cached", r.cached), ("shared", r.shared), ("slab", r.slab),
    ("active", r.active), ("inactive", r.inactive)]

/-- The fields of the swap space. -/
def SwapUse.told (r : SwapUse) : List (String × Option Nat) :=
  [("total", some r.total), ("used", r.used), ("free", r.free), ("sin", r.swappedIn),
    ("sout", r.swappedOut)]

/-- The fields of a disk. -/
def DiskCounters.told (r : DiskCounters) : List (String × Option Nat) :=
  [("read_bytes", r.readBytes), ("write_bytes", r.writeBytes), ("read_count", r.readCount),
    ("write_count", r.writeCount), ("read_time", r.readTime), ("write_time", r.writeTime),
    ("read_merged_count", r.readMergedCount), ("write_merged_count", r.writeMergedCount),
    ("busy_time", r.busyTime)]

/-- The fields of a network interface. -/
def InterfaceCounters.told (r : InterfaceCounters) : List (String × Option Nat) :=
  [("bytes_sent", r.bytesSent), ("bytes_recv", r.bytesReceived),
    ("packets_sent", r.packetsSent), ("packets_recv", r.packetsReceived),
    ("errin", r.errorsIn), ("errout", r.errorsOut), ("dropin", r.dropsIn),
    ("dropout", r.dropsOut)]

/-- The fields of the memory of the collecting process. -/
def ProcessMemory.told (r : ProcessMemory) : List (String × Option Nat) :=
  [("rss", r.resident), ("vms", r.size), ("shared", r.shared), ("text", r.text), ("lib", r.lib),
    ("data", r.data), ("dirty", r.dirty)]

/-- The fields of the CPU time of the collecting process. -/
def ProcessTimes.told (r : ProcessTimes) : List (String × Option Float) :=
  [("user", r.user), ("system", r.system), ("children_user", r.childrenUser),
    ("children_system", r.childrenSystem), ("iowait", r.waiting)]

/-- The numbers of garbage collections, each under its generation. -/
def generations (numbers : List Nat) : List (String × Option Nat) :=
  numbers.zipIdx.map fun (n, generation) => (generation.repr, some n)

/-! ## Asking by name -/

theorem lookup_map_join {α σ : Type} (l : List σ) (name : σ → String) (value? : σ → Option α)
    (key : String) :
    ((l.map fun a => (name a, value? a)).lookup key).join
      = (l.find? fun a => name a == key).bind value? := by
  induction l with
  | nil => rfl
  | cons a l ih =>
    have hkey : (key == name a) = (name a == key) := BEq.comm
    rw [List.map_cons, List.lookup_cons, List.find?_cons, hkey]
    cases name a == key with
    | true => rfl
    | false => exact ih

theorem CpuTimes.field?_eq (r : CpuTimes) (name : String) :
    r.field? name = (r.told.lookup name).join :=
  (lookup_map_join CpuState.all CpuState.name r.time? name).symm

theorem MemoryUse.field?_eq (r : MemoryUse) (name : String) :
    r.field? name = (r.told.lookup name).join := by
  unfold field?
  split <;> simp_all [told, List.lookup_cons, beq_false_of_ne]

theorem SwapUse.field?_eq (r : SwapUse) (name : String) :
    r.field? name = (r.told.lookup name).join := by
  unfold field?
  split <;> simp_all [told, List.lookup_cons, beq_false_of_ne]

theorem DiskCounters.field?_eq (r : DiskCounters) (name : String) :
    r.field? name = (r.told.lookup name).join := by
  unfold field?
  split <;> simp_all [told, List.lookup_cons, beq_false_of_ne]

theorem InterfaceCounters.field?_eq (r : InterfaceCounters) (name : String) :
    r.field? name = (r.told.lookup name).join := by
  unfold field?
  split <;> simp_all [told, List.lookup_cons, beq_false_of_ne]

theorem ProcessMemory.field?_eq (r : ProcessMemory) (name : String) :
    r.field? name = (r.told.lookup name).join := by
  unfold field?
  split <;> simp_all [told, List.lookup_cons, beq_false_of_ne]

theorem ProcessTimes.field?_eq (r : ProcessTimes) (name : String) :
    r.field? name = (r.told.lookup name).join := by
  unfold field?
  split <;> simp_all [told, List.lookup_cons, beq_false_of_ne]

theorem lookup_counters (fields : List (String × Option Nat)) (name : String) :
    ((counters fields).lookup name).join
      = (fields.lookup name).join.map fun n => n.toUInt64.toFloat := by
  induction fields with
  | nil => rfl
  | cons p fields ih =>
    obtain ⟨key, n⟩ := p
    rw [List.lookup_cons]
    show (List.lookup name ((key, _) :: counters fields)).join = _
    rw [List.lookup_cons]
    cases name == key with
    | true => rfl
    | false => exact ih

theorem lookup_of_nodup {α : Type} {pairs : List (String × α)} {p : String × α}
    (h : (pairs.map Prod.fst).Nodup) (hp : p ∈ pairs) : pairs.lookup p.1 = some p.2 := by
  induction pairs with
  | nil => cases hp
  | cons q pairs ih =>
    obtain ⟨hq, hpairs⟩ := List.nodup_cons.mp h
    rw [List.lookup_cons]
    rcases List.mem_cons.mp hp with rfl | hp
    · rw [beq_self_eq_true]
    · have hne : p.1 ≠ q.1 := fun heq => hq (heq ▸ List.mem_map_of_mem hp)
      rw [beq_false_of_ne hne]
      exact ih hpairs hp

/-- The numbers of generations are different texts. -/
theorem nodup_generations (numbers : List Nat) :
    ((generations numbers).map Prod.fst).Nodup := by
  have hplaces : (numbers.zipIdx.map Prod.snd).Nodup := by
    rw [List.zipIdx_map_snd]
    exact List.nodup_range'
  unfold generations
  rw [List.map_map]
  refine List.pairwise_map.mpr ((List.pairwise_map.mp hplaces).imp fun hne heq => hne ?_)
  exact Text.decimal_injective (String.ofList_injective heq)

end HostMetrics
