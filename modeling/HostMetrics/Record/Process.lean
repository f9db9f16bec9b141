/-!
# What is told of the collecting process
-/

namespace HostMetrics

/-- The memory of the process, in bytes. -/
structure ProcessMemory where
  /-- Memory that is resident. -/
  resident : Option Nat
  /-- The whole address space. -/
  size : Option Nat
  /-- Resident memory shared with others. -/
  shared : Option Nat
  /-- Program code. -/
  text : Option Nat
  /-- Library code. -/
  lib : Option Nat
  /-- Data and stack. -/
  data : Option Nat
  /-- Written memory. -/
  dirty : Option Nat
deriving DecidableEq, Repr

/-- The value of the field with the given name. -/
def ProcessMemory.field? (r : ProcessMemory) : String → Option Nat
  | "rss" => r.resident
  | "vms" => r.size
  | "shared" => r.shared
  | "text" => r.text
  | "lib" => r.lib
  | "data" => r.data
  | "dirty" => r.dirty
  | _ => none

/-- The CPU time of the process, in seconds. -/
structure ProcessTimes where
  /-- Time in the program. -/
  user : Option Float
  /-- Time in the kernel on its behalf. -/
  system : Option Float
  /-- Time of its children in their programs. -/
  childrenUser : Option Float
  /-- Time of its children in the kernel. -/
  childrenSystem : Option Float
  /-- Time spent waiting for block devices. -/
  waiting : Option Float

/-- The value of the field with the given name. -/
def ProcessTimes.field? (r : ProcessTimes) : String → Option Float
  | "user" => r.user
  | "system" => r.system
  | "children_user" => r.childrenUser
  | "children_system" => r.childrenSystem
  | "iowait" => r.waiting
  | _ => none

end HostMetrics
