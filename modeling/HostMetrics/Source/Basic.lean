import HostMetrics.Source.Fixed
import HostMetrics.Source.Kernel

/-!
# Sources of statistics

A source is the kernel or a set of fixed records. What is measured is a
function of its reading; asking for the shares of CPU time is the only
thing that changes a source.
-/

namespace HostMetrics

/-- A source of statistics. -/
inductive Source where
  /-- The kernel. -/
  | kernel (s : KernelSource)
  /-- Fixed records. -/
  | fixed (s : FixedSource)

namespace Source

/-- The answers of a source. -/
def reading : Source → Reading
  | kernel s => s.reading
  | fixed s => s.reading

/-- The name of the runtime of the collecting process. -/
def runtimeName : Source → String
  | kernel _ => "rust"
  | fixed s => s.runtimeName

/-- The source after it was asked for a quantity. -/
def after (s : Source) (q : Quantity) : Source :=
  match s, q with
  | kernel s, .cpuShares => kernel s.afterShares
  | s, _ => s

end Source

end HostMetrics
