/-!
# What can be wrong with a kernel text

Each reader of a kernel table refuses its text for a cause, and the first
cause met from the top of the text is the one reported. The causes are
listed here together, with the words they are reported in.
-/

namespace HostMetrics.Proc

/-- A cause for refusing a kernel text. -/
inductive FormatError where
  /-- The process line has no opening parenthesis. -/
  | noOpeningParenthesis
  /-- The process line has no closing parenthesis. -/
  | noClosingParenthesis
  /-- The last closing parenthesis of the process line stands before the first opening one. -/
  | crossedParentheses
  /-- What stands before the command name is no process number. -/
  | badProcessNumber
  /-- The process line has too few columns behind the command name. -/
  | shortProcessLine (count : Nat)
  /-- The named column of the process line is no number of its kind. -/
  | badProcessColumn (column : String)
  /-- A page count is no number. -/
  | badPageCount
  /-- There are too few page counts. -/
  | fewPageCounts (count : Nat)
  /-- The memory table does not tell the size of the memory. -/
  | noMemoryTotal
  /-- A line that starts like a CPU line names no CPU. -/
  | badCpuName (name : String)
  /-- A CPU line has too few columns. -/
  | shortCpuLine (name : String) (count : Nat)
  /-- A column of a CPU line is no number. -/
  | badCpuColumn (name : String)
  /-- The state of a socket is no hexadecimal byte. -/
  | badSocketState (text : String)
  /-- A socket address has no colon. -/
  | noSocketPort (address : String)
  /-- A socket's port is no hexadecimal number of 16 bits. -/
  | badSocketPort (address : String)
  /-- A word of a socket address is no hexadecimal number of 32 bits. -/
  | badSocketWord (address : String)
  /-- A socket address has the length of neither address version. -/
  | badSocketLength (address : String)
deriving DecidableEq, Repr

/-- The words in which a cause is reported. -/
def FormatError.message : FormatError → String
  | .noOpeningParenthesis => "missing '(' in stat"
  | .noClosingParenthesis => "missing ')' in stat"
  | .crossedParentheses => "invalid parentheses in stat"
  | .badProcessNumber => "invalid pid"
  | .shortProcessLine count => s!"not enough fields in stat: expected 22+, got {count}"
  | .badProcessColumn column => s!"invalid {column}"
  | .badPageCount => "invalid statm value"
  | .fewPageCounts count => s!"not enough fields in statm: expected 7, got {count}"
  | .noMemoryTotal => "missing MemTotal in meminfo"
  | .badCpuName name => s!"invalid cpu line '{name}'"
  | .shortCpuLine name count => s!"not enough columns for {name}: expected 4+, got {count}"
  | .badCpuColumn name => s!"invalid value in {name}"
  | .badSocketState text => s!"invalid socket state '{text}'"
  | .noSocketPort address => s!"invalid socket address '{address}'"
  | .badSocketPort address => s!"invalid port in '{address}'"
  | .badSocketWord address => s!"invalid address in '{address}'"
  | .badSocketLength address => s!"unexpected address length in '{address}'"

end HostMetrics.Proc
