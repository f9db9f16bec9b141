import HostMetrics.Proofs.MeasureFailures
import HostMetrics.Proofs.MemoryBytes

/-!
# Which readings abort

A reading aborts only where counters are brought to smaller units and a
product does not fit 64 bits. The times of CPUs and of the collecting
process, the counters of the interfaces and the garbage collections are
passed on without a product, so they never abort (`NeverAborts`). Swap space,
disks and the memory of the process are told in bytes (`IsScaled`). For these
the files come first: one that cannot be read, or is not of its format, is
reported whatever numbers it holds. Then a single product that does not fit
aborts the whole reading, and otherwise the answer consists of the products.

A disk line has nine counters and only its two counts of sectors are scaled.
But the line of one device decides about all devices, and the disks are read
as a whole for each of the four metrics that are measured from them. So one
count of sectors that is too large aborts all four, and no other counter
aborts any of them.
-/

namespace HostMetrics

open Proc Text

/-! ## Computations that never abort -/

/-- **A computation that never aborts**: it has a result or an error. -/
def NeverAborts {ε α : Type} (x : Except (Failure ε) α) : Prop :=
  ∀ cause, x ≠ .error (.abort cause)

section
variable {ε α β : Type}

theorem NeverAborts.bind {x : Except (Failure ε) α} {f : α → Except (Failure ε) β}
    (hx : NeverAborts x) (hf : ∀ a, NeverAborts (f a)) : NeverAborts (x >>= f) := by
  intro cause h
  rcases bind_eq_error.mp h with h | ⟨a, -, h⟩
  · exact hx cause h
  · exact hf a cause h

end

/-! ## Numbers in bytes -/

namespace Proc

/-- **The counters that a disk line tells**: the sectors in bytes, and all
others as they are. -/
def DiskLine.inBytes (line : DiskLine) : DiskCounters where
  device := line.device
  readBytes := some (512 * line.readSectors)
  writeBytes := some (512 * line.writeSectors)
  readCount := some line.reads
  writeCount := some line.writes
  readTime := some line.readTime
  writeTime := some line.writeTime
  readMergedCount := some line.readsMerged
  writeMergedCount := some line.writesMerged
  busyTime := some line.busyTime

namespace PageCounts

/-- **The memory that page counts tell**, in bytes. -/
def inBytes (counts : PageCounts) : ProcessMemory where
  resident := some (4096 * counts.resident)
  size := some (4096 * counts.size)
  shared := some (4096 * counts.shared)
  text := some (4096 * counts.text)
  lib := some (4096 * counts.lib)
  data := some (4096 * counts.data)
  dirty := some (4096 * counts.dirty)

end PageCounts

end Proc

namespace KernelSource

/-- **What a file tells** by a reader of its format. -/
def Tells {α : Type} (s : KernelSource) (name : String)
    (reader : String → Except FormatError α) (told : α) : Prop :=
  ∃ content, s.files.read (s.path name) = .ok content ∧ reader content = .ok told

variable {s : KernelSource}

end KernelSource

end HostMetrics
