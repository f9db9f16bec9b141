import HostMetrics.Hash.Xxh3
import HostMetrics.Label.Basic

/-!
# The digest of a label set

Label sets are told apart by a digest before they are compared. It is the
hash of the labels in the order of their keys, each written as its key, a
zero byte, a letter for the kind of its value, the value, and a byte that
occurs in no text.
-/

namespace HostMetrics

/-- The eight bytes of an integer, the least significant first. -/
def Int64.bytes (n : Int64) : List UInt8 :=
  (List.range 8).map fun i => (n.toUInt64 >>> (8 * i).toUInt64).toUInt8

/-- The bytes that a value adds to the digest: the letter `i` or `s` and
the value. -/
def LabelValue.digestBytes : LabelValue → List UInt8
  | .int n => 0x69 :: Int64.bytes n
  | .str s => 0x73 :: utf8 s

/-- The bytes that a label adds to the digest. -/
def labelDigestBytes (label : Label) : List UInt8 :=
  utf8 label.1 ++ 0 :: label.2.digestBytes ++ [0xFF]

namespace LabelSet

/-- The bytes that the digest is taken of. -/
def digestBytes (s : LabelSet) : List UInt8 := s.entries.flatMap labelDigestBytes

/-- The digest of a label set. -/
def digest (s : LabelSet) : UInt64 := Hash.Xxh3.hash s.digestBytes

end LabelSet

end HostMetrics
