import HostMetrics.Text.Blank
import HostMetrics.Text.Numeral
import HostMetrics.Proc.FormatError

/-!
# The page counts of a process

Seven numbers of pages, in an order of the kernel's own. Further columns
are allowed, but they have to be numbers like the first seven.
-/

namespace HostMetrics.Proc

open Text

/-- The memory of a process, in pages. -/
structure PageCounts where
  /-- All pages of the address space. -/
  size : Nat
  /-- Pages that are in memory. -/
  resident : Nat
  /-- Resident pages shared with others. -/
  shared : Nat
  /-- Pages of program code. -/
  text : Nat
  /-- Pages of library code; no longer counted by the kernel. -/
  lib : Nat
  /-- Pages of data and stack. -/
  data : Nat
  /-- Written pages; no longer counted by the kernel. -/
  dirty : Nat
deriving DecidableEq, Repr

/-- Reads the page counts of a process. -/
def PageCounts.parse (content : String) : Except FormatError PageCounts :=
  match words? (columns content.toList) with
  | none => .error .badPageCount
  | some (size :: resident :: shared :: text :: lib :: data :: dirty :: _) =>
    .ok { size, resident, shared, text, lib, data, dirty }
  | some few => .error (.fewPageCounts few.length)

end HostMetrics.Proc
