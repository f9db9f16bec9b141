import HostMetrics.Text.Blank
import HostMetrics.Text.Numeral

/-!
# The paging counters

A line of the paging table is a key and a number. Two keys matter, the
pages swapped in and out; of several lines with one key the last counts,
and one whose number is broken counts as zero. No text is refused.
-/

namespace HostMetrics.Proc

open Text

/-- Pages swapped in and out since the system started. -/
structure PagingTable where
  /-- Pages swapped in. -/
  swappedIn : Nat
  /-- Pages swapped out. -/
  swappedOut : Nat
deriving DecidableEq, Repr

namespace PagingTable

/-- A key and its number, if the line has two columns at least. -/
def entry? (line : List Char) : Option (List Char × Nat) :=
  match columns line with
  | key :: value :: _ => some (key, (word? value).getD 0)
  | _ => none

/-- Reads the paging counters. -/
def parse (text : String) : PagingTable :=
  let entries := (lines text.toList).filterMap entry?
  let last (key : String) : Nat := (entries.reverse.lookup key.toList).getD 0
  { swappedIn := last "pswpin", swappedOut := last "pswpout" }

end PagingTable

end HostMetrics.Proc
