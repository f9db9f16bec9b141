import HostMetrics.Text.Blank
import HostMetrics.Text.Numeral
import HostMetrics.Proc.FormatError

/-!
# The memory table

A line of the memory table is a key, a colon and a number of kibibytes.
Only the twelve keys below matter, and of several lines with one key the
last counts. A line that is not of this shape is passed over, so a
repeated key with a broken number does not undo the number before it.
-/

namespace HostMetrics.Proc

open Text

/-- The memory of the system, in kibibytes. Keys that older kernels do not
print are optional; the others count as zero when they are missing. -/
structure MemoryTable where
  /-- Usable memory. -/
  total : Nat
  /-- Memory that is not in use. -/
  free : Nat
  /-- The kernel's estimate of what new programs can have. -/
  available : Option Nat
  /-- Buffers of block devices. -/
  buffers : Nat
  /-- The page cache. -/
  cached : Nat
  /-- Recently used memory. -/
  active : Option Nat
  /-- Memory that was not used recently. -/
  inactive : Option Nat
  /-- The size of the swap space. -/
  swapTotal : Nat
  /-- Swap space that is not in use. -/
  swapFree : Nat
  /-- Shared memory. -/
  shared : Option Nat
  /-- The kernel's own data structures. -/
  slab : Option Nat
  /-- The part of `slab` that the kernel can give back. -/
  reclaimable : Option Nat
deriving DecidableEq, Repr

namespace MemoryTable

/-- A key and its number, if the line is of that shape. -/
def entry? (line : List Char) : Option (List Char × Nat) :=
  (cutAt ':' line).bind fun (key, rest) =>
    ((columns rest).head?.bind word?).map fun n => (trim key, n)

/-- The number of the last entry with the given key. -/
def lastOf? (entries : List (List Char × Nat)) (key : String) : Option Nat :=
  entries.reverse.lookup key.toList

/-- The table that a list of entries describes. -/
def ofEntries (entries : List (List Char × Nat)) : Except FormatError MemoryTable :=
  match lastOf? entries "MemTotal" with
  | none => .error .noMemoryTotal
  | some total => .ok {
      total
      free := (lastOf? entries "MemFree").getD 0
      available := lastOf? entries "MemAvailable"
      buffers := (lastOf? entries "Buffers").getD 0
      cached := (lastOf? entries "Cached").getD 0
      active := lastOf? entries "Active"
      inactive := lastOf? entries "Inactive"
      swapTotal := (lastOf? entries "SwapTotal").getD 0
      swapFree := (lastOf? entries "SwapFree").getD 0
      shared := lastOf? entries "Shmem"
      slab := lastOf? entries "Slab"
      reclaimable := lastOf? entries "SReclaimable" }

/-- Reads the memory table. -/
def parse (text : String) : Except FormatError MemoryTable :=
  ofEntries ((lines text.toList).filterMap entry?)

end MemoryTable

end HostMetrics.Proc
