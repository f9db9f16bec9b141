import Std.Data.HashMap

/-!
# Tallies

A tally counts how often each value occurs and keeps the values in the
order of their first occurrence. Values are looked up by a digest. A digest
only narrows the search down: the values that share it are compared one by
one, so values are counted apart whatever the digest does.
-/

namespace HostMetrics

/-- Counted values. -/
structure Tally (α : Type) where
  /-- The values with their counts, in the order of first occurrence. -/
  groups : Array (α × Nat)
  /-- The places in `groups` of the values with a digest. -/
  slots : Std.HashMap UInt64 (List Nat)

namespace Tally

variable {α : Type} [DecidableEq α]

/-- The tally of no values. -/
def empty : Tally α := ⟨#[], ∅⟩

/-- The places of the values with a digest. -/
def placesOf (t : Tally α) (digest : UInt64) : List Nat := t.slots.getD digest []

/-- The place of a value, searched among those with its digest. -/
def place? (digest : α → UInt64) (t : Tally α) (a : α) : Option Nat :=
  (t.placesOf (digest a)).find? fun i => (t.groups[i]?.map Prod.fst) = some a

/-- The tally with one more occurrence of a value. -/
def add (digest : α → UInt64) (t : Tally α) (a : α) : Tally α :=
  match place? digest t a with
  | some i => { t with groups := t.groups.modify i fun group => (group.1, group.2 + 1) }
  | none => {
      groups := t.groups.push (a, 1)
      slots := t.slots.insert (digest a) (t.groups.size :: t.placesOf (digest a)) }

/-- The tally of a list of values. -/
def ofList (digest : α → UInt64) (values : List α) : Tally α :=
  values.foldl (add digest) empty

/-- The counted values. -/
def toList (t : Tally α) : List (α × Nat) := t.groups.toList

end Tally

end HostMetrics
