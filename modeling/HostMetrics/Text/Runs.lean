/-!
# Sets of characters

A property of characters is given as the ascending list of the code points
at which it begins and ceases to hold, in turn. A character has it iff an
odd number of these lie at or below its own code point.
-/

namespace HostMetrics.Text

/-- Whether a code point lies in the set with the given boundaries. -/
def inRuns (boundaries : List Nat) (codePoint : Nat) : Bool :=
  boundaries.countP (· ≤ codePoint) % 2 == 1

end HostMetrics.Text
