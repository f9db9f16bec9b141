/-!
# Directions

Traffic of a network interface goes in one of two directions. The four
interface metrics differ only in the counter that they take for each.
-/

namespace HostMetrics

/-- A direction of traffic. -/
inductive Direction where
  | receive | transmit
deriving DecidableEq, Repr

namespace Direction

/-- The name of a direction, in configurations and labels. -/
def name : Direction → String
  | receive => "receive"
  | transmit => "transmit"

/-- The direction with the given name. -/
def ofName? : String → Option Direction
  | "receive" => some receive
  | "transmit" => some transmit
  | _ => none

theorem name_of_ofName? {s : String} {d : Direction} (h : ofName? s = some d) : d.name = s := by
  unfold ofName? at h
  split at h <;> simp_all [name] <;> subst h <;> rfl

theorem ofName?_eq_none_iff {s : String} : ofName? s = none ↔ s ∉ ["receive", "transmit"] := by
  unfold ofName?
  split <;> simp_all

end Direction

end HostMetrics
