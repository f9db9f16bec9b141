import HostMetrics.Failure
import HostMetrics.Text.Numeral

/-!
# Counters

A counter is a natural number that fits 64 bits. Arithmetic on counters is
that of the natural numbers; a sum or a product that does not fit has no
counter for its result and aborts instead of wrapping around. Differences
stop at zero, since a counter that went backwards counts as unchanged.
-/

namespace HostMetrics.Counter

open Text

/-- A sum of counters, as a natural number. -/
def exactSum (ns : List Nat) : Nat := ns.foldr (· + ·) 0

/-- A sum of counters. -/
def sum (ns : List Nat) : Except Abort Nat :=
  if exactSum ns < wordLimit then .ok (exactSum ns) else .error .sumOverflow

/-- A counter in units that are `factor` times smaller. -/
def scaled (factor n : Nat) : Except Abort Nat :=
  if factor * n < wordLimit then .ok (factor * n) else .error .productOverflow

/-- The same for a counter that may be missing. -/
def scaled? (factor : Nat) : Option Nat → Except Abort (Option Nat)
  | none => .ok none
  | some n => (scaled factor n).map some

/-- A counter as a floating-point number, rounded to nearest. -/
def toFloat (n : Nat) : Float := n.toUInt64.toFloat

/-- The share of a part in a whole; nothing has a share in an empty whole. -/
def ratio (part whole : Nat) : Float :=
  if whole = 0 then 0 else toFloat part / toFloat whole

end HostMetrics.Counter
