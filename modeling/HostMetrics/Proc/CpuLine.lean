import HostMetrics.Counter
import HostMetrics.CpuState
import HostMetrics.Text.Blank
import HostMetrics.Text.Numeral
import HostMetrics.Proc.FormatError

/-!
# The CPU lines

The kernel counts, for each CPU, the clock ticks spent in each of ten
states, one column per state. Kernels added states over time and always at
the end of the line, so a line has four to ten counters and the states it
tells are the first ones: `CpuLine` keeps the counters as a list of such a
length, and a state is told iff its position is inside it (`CpuLine.ticks?`).
-/

namespace HostMetrics.Proc

open Text

/-- The clock ticks of one CPU, or of all of them together. -/
structure CpuLine where
  /-- The number of the CPU; the line of all CPUs together has none. -/
  cpu : Option Nat
  /-- The counters of the states, from `user` on. -/
  ticks : List Nat
  /-- The four oldest states are always told. -/
  four_le : 4 ≤ ticks.length
  /-- There are ten states. -/
  le_ten : ticks.length ≤ 10
deriving DecidableEq, Repr

namespace CpuLine

/-- The counter of a state, if the line tells it. -/
def ticks? (line : CpuLine) (state : CpuState) : Option Nat :=
  line.ticks[state.column]?

/-- The counters of the states that make up the CPU's time. Guest time is
left out because it is part of user time already. -/
def counted (line : CpuLine) : List Nat :=
  line.ticks.take 8

/-- The CPU's time in ticks. -/
def total (line : CpuLine) : Except Abort Nat := Counter.sum line.counted

/-- Whether a line of the statistics is one of its CPU lines: its first
column starts with `cpu`. -/
def isCpuName (name : List Char) : Bool :=
  ['c', 'p', 'u'].isPrefixOf name

/-- The number in the name of a CPU; `cpu` alone names all of them. -/
def numberOf? (name : List Char) : Option (Option Nat) :=
  if name = ['c', 'p', 'u'] then some none
  else (unsigned? 10 limit32 (name.drop 3)).map some

/-- The CPU line with the given first column and counters. Columns behind
the tenth counter are not looked at. -/
def ofColumns (name : List Char) (counters : List (List Char)) : Except FormatError CpuLine :=
  match numberOf? name with
  | none => .error (.badCpuName (String.ofList name))
  | some cpu =>
    if h : counters.length < 4 then
      .error (.shortCpuLine (String.ofList name) counters.length)
    else
      match hw : words? (counters.take 10) with
      | none => .error (.badCpuColumn (String.ofList name))
      | some ticks =>
        have hl := length_words? hw
        .ok {
          cpu, ticks
          four_le := by rw [hl, List.length_take]; omega
          le_ten := by rw [hl, List.length_take]; omega }

/-- The first column and the counters of a line, if it is a CPU line. -/
def row? (line : List Char) : Option (List Char × List (List Char)) :=
  match columns line with
  | name :: counters => if isCpuName name then some (name, counters) else none
  | [] => none

/-- Reads the CPU lines of the statistics, in their order. -/
def parse (text : String) : Except FormatError (List CpuLine) :=
  ((lines text.toList).filterMap row?).mapM fun (name, counters) => ofColumns name counters

end CpuLine

end HostMetrics.Proc
