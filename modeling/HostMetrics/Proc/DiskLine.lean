import HostMetrics.Text.Blank
import HostMetrics.Text.Numeral

/-!
# The disk lines

A disk line has two device numbers, the device's name and its counters. A
line with too few columns is passed over, and a counter that is no number
counts as zero, so no text is refused and no line disturbs another.
-/

namespace HostMetrics.Proc

open Text

/-- The counter in a column, zero if it is missing or no number. -/
def counterAt (cs : List (List Char)) (i : Nat) : Nat :=
  ((cs[i]?).bind word?).getD 0

/-- The counters of one block device. -/
structure DiskLine where
  /-- The name of the device. -/
  device : String
  /-- Reads that were completed. -/
  reads : Nat
  /-- Reads that were merged with others. -/
  readsMerged : Nat
  /-- Sectors that were read. -/
  readSectors : Nat
  /-- Milliseconds spent reading. -/
  readTime : Nat
  /-- Writes that were completed. -/
  writes : Nat
  /-- Writes that were merged with others. -/
  writesMerged : Nat
  /-- Sectors that were written. -/
  writeSectors : Nat
  /-- Milliseconds spent writing. -/
  writeTime : Nat
  /-- Milliseconds during which the device was busy. -/
  busyTime : Nat
deriving DecidableEq, Repr

namespace DiskLine

/-- The counters in the columns of a line, if there are enough of them. -/
def ofColumns? (cs : List (List Char)) : Option DiskLine :=
  if cs.length < 14 then none
  else some {
    device := String.ofList ((cs[2]?).getD [])
    reads := counterAt cs 3
    readsMerged := counterAt cs 4
    readSectors := counterAt cs 5
    readTime := counterAt cs 6
    writes := counterAt cs 7
    writesMerged := counterAt cs 8
    writeSectors := counterAt cs 9
    writeTime := counterAt cs 10
    busyTime := counterAt cs 12 }

/-- Reads the disk lines, in their order. -/
def parse (text : String) : List DiskLine :=
  (lines text.toList).filterMap fun line => ofColumns? (columns line)

end DiskLine

end HostMetrics.Proc
