/-!
# The states of a CPU

The kernel accounts each tick of a CPU to one of ten states. Their order is
that of the columns in which they are counted, oldest first.
-/

namespace HostMetrics

/-- The states that a CPU's time is split into, in the order of their
columns. -/
inductive CpuState where
  | user | nice | system | idle | iowait | irq | softirq | steal | guest | guestNice
deriving DecidableEq, Repr

namespace CpuState

/-- Every state, in the order of the columns. -/
def all : List CpuState :=
  [.user, .nice, .system, .idle, .iowait, .irq, .softirq, .steal, .guest, .guestNice]

/-- The name a state is asked for by. -/
def name : CpuState → String
  | .user => "user"
  | .nice => "nice"
  | .system => "system"
  | .idle => "idle"
  | .iowait => "iowait"
  | .irq => "irq"
  | .softirq => "softirq"
  | .steal => "steal"
  | .guest => "guest"
  | .guestNice => "guest_nice"

/-- The column of a state, counted from zero. -/
def column : CpuState → Nat
  | .user => 0
  | .nice => 1
  | .system => 2
  | .idle => 3
  | .iowait => 4
  | .irq => 5
  | .softirq => 6
  | .steal => 7
  | .guest => 8
  | .guestNice => 9

/-- The state with the given name. -/
def ofName? (s : String) : Option CpuState :=
  all.find? (fun state => state.name == s)

theorem mem_all (state : CpuState) : state ∈ all := by
  cases state <;> decide

@[simp] theorem ofName?_name (state : CpuState) : ofName? state.name = some state := by
  cases state <;> decide

theorem name_of_ofName? {s : String} {state : CpuState} (h : ofName? s = some state) :
    state.name = s := by
  simpa using List.find?_some h

end CpuState

end HostMetrics
