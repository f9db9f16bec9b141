/-!
# The shortest decimal of a floating-point number

A floating-point number stands for an interval of reals, those that round
to it: halfway to its neighbours on either side, the ends included when
its significand is even. Its shortest decimal is the one with the fewest
digits in that interval, and of several such the nearest to the number
itself, an exact tie going to the even digit.

The search is on decimal grids, from the coarsest down. If any point of a
grid lies in the interval, so does one of the number's two neighbours on
that grid, hence only those two are tested. All arithmetic is exact.
-/

namespace HostMetrics

/-- The decimal `digits · 10 ^ exponent`. -/
structure Decimal where
  /-- The digits, as one number. -/
  digits : Nat
  /-- The power of ten. -/
  exponent : Int
deriving DecidableEq, Repr

/-- A positive floating-point number `significand · 2 ^ exponent`. -/
structure Binary where
  /-- The significand. -/
  significand : Nat
  /-- The power of two. -/
  exponent : Int
  /-- Whether the next smaller number is only half as far as the next larger
  one, as it is below a power of two. -/
  closeBelow : Bool
deriving DecidableEq, Repr

namespace Binary

/-- One more than the largest fraction, which has 52 bits. -/
abbrev fractionLimit : Nat := 0x10000000000000

/-- The magnitude of the double-precision number with the given bits, if
that is positive and finite. -/
def ofBits? (bits : UInt64) : Option Binary :=
  let fraction : Nat := bits.toNat % fractionLimit
  let biased : Nat := bits.toNat / fractionLimit % 2048
  if biased = 2047 then none
  else if biased = 0 then
    if fraction = 0 then none else some ⟨fraction, -1074, false⟩
  else some ⟨fractionLimit + fraction, (biased : Int) - 1075, fraction == 0 && 1 < biased⟩

/-- The neighbour of the number on the grid of multiples of `10 ^ k` that
lies in the number's interval, if one does; of two the nearer one. Number,
interval and grid are compared as multiples of a common unit. -/
def neighbour? (x : Binary) (k : Int) : Option Decimal :=
  let unit : Nat := Nat.pow 2 (x.exponent - 2).toNat * Nat.pow 10 (-k).toNat
  let step : Nat := Nat.pow 2 (2 - x.exponent).toNat * Nat.pow 10 k.toNat
  let value := 4 * x.significand * unit
  let low : Nat := (4 * x.significand - if x.closeBelow then 1 else 2) * unit
  let high := (4 * x.significand + 2) * unit
  let inside (n : Nat) : Bool :=
    if x.significand % 2 = 0 then low ≤ n * step && n * step ≤ high
    else low < n * step && n * step < high
  let below := value / step
  let excess := value % step
  let pick (n : Nat) : Option Decimal := some ⟨n, k⟩
  if excess = 0 then if inside below then pick below else none
  else
    match inside below, inside (below + 1) with
    | true, true =>
      if 2 * excess < step then pick below
      else if step < 2 * excess then pick (below + 1)
      else pick (if below % 2 = 0 then below else below + 1)
    | true, false => pick below
    | false, true => pick (below + 1)
    | false, false => none

/-- A power of ten above the number. -/
def ceilingExponent (x : Binary) : Nat :=
  (Nat.toDigits 10 (x.significand * Nat.pow 2 x.exponent.toNat)).length

/-- The shortest decimal of the number. The finest grid tried has a step
far below the interval of any double-precision number. -/
def shortest (x : Binary) : Decimal :=
  ((List.range 700).findSome? fun (i : Nat) => x.neighbour? ((x.ceilingExponent : Int) - i)).getD
    ⟨0, 0⟩

end Binary

end HostMetrics
