import HostMetrics.CpuState

/-!
# What is told of a CPU

The time that a CPU spent in each of its states, in seconds, or its share
of the time since the sample before, in percent. Which states are told
depends on the kernel, so a record is a partial function on the states.
-/

namespace HostMetrics

/-- The times of one CPU. -/
structure CpuTimes where
  /-- The time in a state, if it is told. -/
  time? : CpuState → Option Float

/-- The value of the field with the given name. -/
def CpuTimes.field? (r : CpuTimes) (name : String) : Option Float :=
  (CpuState.ofName? name).bind r.time?

@[simp] theorem CpuTimes.field?_name (r : CpuTimes) (state : CpuState) :
    r.field? state.name = r.time? state := by
  simp [field?]

end HostMetrics
