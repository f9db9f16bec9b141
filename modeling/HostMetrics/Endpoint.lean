import HostMetrics.Text.Numeral

/-!
# Endpoints

An endpoint of a connection is an address of either Internet version and a
port. Its text is the usual one: four decimal bytes and dots for version
4, groups of hexadecimal digits and colons in brackets for version 6. In
the latter the longest run of at least two zero groups is left out, the
first one if two are equally long, and an address that stands for one of
version 4 ends in the text of that one.
-/

namespace HostMetrics

open Text

/-- Four bytes of an address, the most significant first. -/
structure AddressWord where
  /-- The most significant byte. -/
  a : UInt8
  /-- The second byte. -/
  b : UInt8
  /-- The third byte. -/
  c : UInt8
  /-- The least significant byte. -/
  d : UInt8
deriving DecidableEq, Repr

/-- An Internet address. -/
inductive IpAddress where
  /-- An address of version 4. -/
  | v4 (word : AddressWord)
  /-- An address of version 6. -/
  | v6 (w₀ w₁ w₂ w₃ : AddressWord)
deriving DecidableEq, Repr

/-- An address and a port. -/
structure Endpoint where
  /-- The address. -/
  address : IpAddress
  /-- The port. -/
  port : UInt16
deriving DecidableEq, Repr

namespace AddressWord

/-- The word of four zero bytes. -/
def zero : AddressWord := ⟨0, 0, 0, 0⟩

/-- The two groups of an address of version 6 that a word makes up. -/
def groups (w : AddressWord) : List Nat :=
  [w.a.toNat * 256 + w.b.toNat, w.c.toNat * 256 + w.d.toNat]

/-- The text of a word as an address of version 4. -/
def dotted (w : AddressWord) : List Char :=
  decimal w.a.toNat ++ '.' :: decimal w.b.toNat ++ '.' :: decimal w.c.toNat
    ++ '.' :: decimal w.d.toNat

end AddressWord

namespace IpAddress

/-- The address that stands for no address. -/
def isUnspecified : IpAddress → Bool
  | v4 w => w == .zero
  | v6 w₀ w₁ w₂ w₃ => w₀ == .zero && w₁ == .zero && w₂ == .zero && w₃ == .zero

/-- Where the longest run of zero groups starts and how long it is; of
several longest ones the first. -/
def zeroRun : List Nat → Nat × Nat
  | [] => (0, 0)
  | g :: gs =>
    let here := ((g :: gs).takeWhile (· == 0)).length
    let (start, length) := zeroRun gs
    if length ≤ here then (0, here) else (start + 1, length)

/-- Groups in hexadecimal digits with colons between them. -/
def joinGroups : List Nat → List Char
  | [] => []
  | [g] => Nat.toDigits 16 g
  | g :: gs => Nat.toDigits 16 g ++ ':' :: joinGroups gs

/-- The text of the groups of an address of version 6. -/
def groupsText (gs : List Nat) : List Char :=
  let (start, length) := zeroRun gs
  if 2 ≤ length then
    joinGroups (gs.take start) ++ ':' :: ':' :: joinGroups (gs.drop (start + length))
  else joinGroups gs

/-- The text of an address. -/
def text : IpAddress → List Char
  | v4 w => w.dotted
  | v6 w₀ w₁ w₂ w₃ =>
    if w₀ = .zero ∧ w₁ = .zero ∧ w₂ = ⟨0, 0, 255, 255⟩ then
      "::ffff:".toList ++ w₃.dotted
    else groupsText (w₀.groups ++ w₁.groups ++ w₂.groups ++ w₃.groups)

end IpAddress

/-- The text of an endpoint. -/
def Endpoint.text (e : Endpoint) : List Char :=
  match e.address with
  | .v4 _ => e.address.text ++ ':' :: decimal e.port.toNat
  | .v6 .. => '[' :: e.address.text ++ ']' :: ':' :: decimal e.port.toNat

end HostMetrics
