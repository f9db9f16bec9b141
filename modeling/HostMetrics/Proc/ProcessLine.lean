import HostMetrics.Text.Blank
import HostMetrics.Text.Numeral
import HostMetrics.Proc.FormatError

/-!
# The process line

The kernel describes a process in one line: its number, the name of its
command in parentheses, and columns from there on. The name is free text
and may hold blanks and parentheses itself, so it reaches from the first
opening to the last closing parenthesis, and columns are counted behind it.
-/

namespace HostMetrics.Proc

open Text

/-- The CPU ticks that a process line tells. -/
structure ProcessLine where
  /-- Ticks spent in user mode. -/
  userTicks : Nat
  /-- Ticks spent in the kernel. -/
  systemTicks : Nat
  /-- Ticks in user mode of children that were waited for. -/
  childUserTicks : Int
  /-- Ticks in the kernel of children that were waited for. -/
  childSystemTicks : Int
  /-- Ticks spent waiting for block devices, where the kernel counts them. -/
  blockDelayTicks : Option Nat
deriving DecidableEq, Repr

namespace ProcessLine

/-- The columns behind the command name, once the parentheses and the
process number in front of it are in order. -/
def columnsBehindName (s : List Char) : Except FormatError (List (List Char)) :=
  match cutAt '(' s with
  | none => .error .noOpeningParenthesis
  | some (number, behindOpening) =>
    match cutAtLast ')' s with
    | none => .error .noClosingParenthesis
    | some _ =>
      match cutAtLast ')' behindOpening with
      | none => .error .crossedParentheses
      | some (_, behindName) =>
        match unsigned? 10 limit32 (trim number) with
        | none => .error .badProcessNumber
        | some _ => .ok (columns behindName)

/-- A column that has to be a number of 64 bits. -/
def wordColumn (cs : List (List Char)) (i : Nat) (name : String) : Except FormatError Nat :=
  match (cs[i]?).bind word? with
  | some n => .ok n
  | none => .error (.badProcessColumn name)

/-- A column that has to be a signed number of 64 bits. -/
def signedColumn (cs : List (List Char)) (i : Nat) (name : String) : Except FormatError Int :=
  match (cs[i]?).bind (signed? 10 limit63) with
  | some n => .ok n
  | none => .error (.badProcessColumn name)

/-- The ticks in the columns behind the command name. There have to be 22
columns; the block delay stands far behind those and is not insisted on. -/
def ofColumns (cs : List (List Char)) : Except FormatError ProcessLine := do
  if cs.length < 22 then .error (.shortProcessLine cs.length)
  let userTicks ← wordColumn cs 11 "utime"
  let systemTicks ← wordColumn cs 12 "stime"
  let childUserTicks ← signedColumn cs 13 "cutime"
  let childSystemTicks ← signedColumn cs 14 "cstime"
  return {
    userTicks, systemTicks, childUserTicks, childSystemTicks
    blockDelayTicks := (cs[39]?).bind word? }

/-- Reads a process line, blanks around it aside. -/
def parse (text : String) : Except FormatError ProcessLine :=
  (columnsBehindName (trim text.toList)).bind ofColumns

end ProcessLine

end HostMetrics.Proc
