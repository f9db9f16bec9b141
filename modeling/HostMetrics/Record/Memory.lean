/-!
# What is told of memory and swap space

All numbers are bytes. The total is always told; the other fields depend
on the kernel.
-/

namespace HostMetrics

/-- The memory of the system. -/
structure MemoryUse where
  /-- Usable memory. -/
  total : Nat
  /-- Memory that is in use. -/
  used : Option Nat
  /-- Memory that is not in use. -/
  free : Option Nat
  /-- Memory that new programs can have. -/
  available : Option Nat
  /-- Buffers of block devices. -/
  buffers : Option Nat
  /-- The page cache. -/
  cached : Option Nat
  /-- Shared memory. -/
  shared : Option Nat
  /-- The kernel's own data structures. -/
  slab : Option Nat
  /-- Recently used memory. -/
  active : Option Nat
  /-- Memory that was not used recently. -/
  inactive : Option Nat
deriving DecidableEq, Repr

/-- The value of the field with the given name. -/
def MemoryUse.field? (r : MemoryUse) : String → Option Nat
  | "total" => some r.total
  | "used" => r.used
  | "free" => r.free
  | "available" => r.available
  | "buffers" => r.buffers
  | "cached" => r.cached
  | "shared" => r.shared
  | "slab" => r.slab
  | "active" => r.active
  | "inactive" => r.inactive
  | _ => none

/-- The swap space of the system. -/
structure SwapUse where
  /-- The size of the swap space. -/
  total : Nat
  /-- Swap space that is in use. -/
  used : Option Nat
  /-- Swap space that is not in use. -/
  free : Option Nat
  /-- All that was ever swapped in. -/
  swappedIn : Option Nat
  /-- All that was ever swapped out. -/
  swappedOut : Option Nat
deriving DecidableEq, Repr

/-- The value of the field with the given name. -/
def SwapUse.field? (r : SwapUse) : String → Option Nat
  | "total" => some r.total
  | "used" => r.used
  | "free" => r.free
  | "sin" => r.swappedIn
  | "sout" => r.swappedOut
  | _ => none

end HostMetrics
