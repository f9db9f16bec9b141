/-!
# The hash XXH3

The 64-bit variant of XXH3 with its default secret and without a seed.
Short inputs are mixed in one step that depends on their length; the bytes
of an input longer than 240 run through eight lanes, in stripes of 64
bytes, and the lanes are merged at the end. All arithmetic is that of
64-bit words, where sums and products wrap around.
-/

namespace HostMetrics.Hash.Xxh3

/-- The secret that inputs are mixed with. -/
def secret : Array UInt8 := #[
  0xb8, 0xfe, 0x6c, 0x39, 0x23, 0xa4, 0x4b, 0xbe, 0x7c, 0x01, 0x81, 0x2c,
  0xf7, 0x21, 0xad, 0x1c, 0xde, 0xd4, 0x6d, 0xe9, 0x83, 0x90, 0x97, 0xdb,
  0x72, 0x40, 0xa4, 0xa4, 0xb7, 0xb3, 0x67, 0x1f, 0xcb, 0x79, 0xe6, 0x4e,
  0xcc, 0xc0, 0xe5, 0x78, 0x82, 0x5a, 0xd0, 0x7d, 0xcc, 0xff, 0x72, 0x21,
  0xb8, 0x08, 0x46, 0x74, 0xf7, 0x43, 0x24, 0x8e, 0xe0, 0x35, 0x90, 0xe6,
  0x81, 0x3a, 0x26, 0x4c, 0x3c, 0x28, 0x52, 0xbb, 0x91, 0xc3, 0x00, 0xcb,
  0x88, 0xd0, 0x65, 0x8b, 0x1b, 0x53, 0x2e, 0xa3, 0x71, 0x64, 0x48, 0x97,
  0xa2, 0x0d, 0xf9, 0x4e, 0x38, 0x19, 0xef, 0x46, 0xa9, 0xde, 0xac, 0xd8,
  0xa8, 0xfa, 0x76, 0x3f, 0xe3, 0x9c, 0x34, 0x3f, 0xf9, 0xdc, 0xbb, 0xc7,
  0xc7, 0x0b, 0x4f, 0x1d, 0x8a, 0x51, 0xe0, 0x4b, 0xcd, 0xb4, 0x59, 0x31,
  0xc8, 0x9f, 0x7e, 0xc9, 0xd9, 0x78, 0x73, 0x64, 0xea, 0xc5, 0xac, 0x83,
  0x34, 0xd3, 0xeb, 0xc3, 0xc5, 0x81, 0xa0, 0xff, 0xfa, 0x13, 0x63, 0xeb,
  0x17, 0x0d, 0xdd, 0x51, 0xb7, 0xf0, 0xda, 0x49, 0xd3, 0x16, 0x55, 0x26,
  0x29, 0xd4, 0x68, 0x9e, 0x2b, 0x16, 0xbe, 0x58, 0x7d, 0x47, 0xa1, 0xfc,
  0x8f, 0xf8, 0xb8, 0xd1, 0x7a, 0xd0, 0x31, 0xce, 0x45, 0xcb, 0x3a, 0x8f,
  0x95, 0x16, 0x04, 0x28, 0xaf, 0xd7, 0xfb, 0xca, 0xbb, 0x4b, 0x40, 0x7e]

/-- The word of `count` bytes at `start`, the least significant first. -/
def readWord (bytes : Array UInt8) (start count : Nat) : UInt64 :=
  (List.range count).foldr
    (fun i word => word <<< 8 ||| (bytes.getD (start + i) 0).toUInt64) 0

/-- The word of eight bytes at `start`. -/
def read64 (bytes : Array UInt8) (start : Nat) : UInt64 := readWord bytes start 8

/-- The word of four bytes at `start`. -/
def read32 (bytes : Array UInt8) (start : Nat) : UInt64 := readWord bytes start 4

/-- The eight bytes of the secret at `start`. -/
def secret64 (start : Nat) : UInt64 := read64 secret start

/-! ## Primes -/

/-- A prime of 32 bits. -/
def prime32A : UInt64 := 0x9E3779B1

/-- A prime of 32 bits. -/
def prime32B : UInt64 := 0x85EBCA77

/-- A prime of 32 bits. -/
def prime32C : UInt64 := 0xC2B2AE3D

/-- A prime of 64 bits. -/
def prime64A : UInt64 := 0x9E3779B185EBCA87

/-- A prime of 64 bits. -/
def prime64B : UInt64 := 0xC2B2AE3D27D4EB4F

/-- A prime of 64 bits. -/
def prime64C : UInt64 := 0x165667B19E3779F9

/-- A prime of 64 bits. -/
def prime64D : UInt64 := 0x85EBCA77C2B2AE63

/-- A prime of 64 bits. -/
def prime64E : UInt64 := 0x27D4EB2F165667C5

/-! ## Mixing -/

/-- The word turned left by `n` bits. -/
def rotateLeft (word : UInt64) (n : UInt64) : UInt64 :=
  word <<< n ||| word >>> (64 - n)

/-- The bytes of the word in the opposite order. -/
def swapBytes (word : UInt64) : UInt64 :=
  (List.range 8).foldl
    (fun (swapped : UInt64) i => swapped <<< 8 ||| (word >>> (8 * i).toUInt64) &&& 0xFF) 0

/-- The two halves of the product of 128 bits, one on top of the other. -/
def foldProduct (x y : UInt64) : UInt64 :=
  let product := x.toNat * y.toNat
  (UInt64.ofNat product) ^^^ (UInt64.ofNat (product / 0x10000000000000000))

/-- The last step for most lengths. -/
def avalanche (h : UInt64) : UInt64 :=
  let h := (h ^^^ h >>> 37) * 0x165667919E3779F9
  h ^^^ h >>> 32

/-- The last step for the shortest inputs. -/
def strongAvalanche (h : UInt64) : UInt64 :=
  let h := (h ^^^ h >>> 33) * prime64B
  let h := (h ^^^ h >>> 29) * prime64C
  h ^^^ h >>> 32

/-- The sixteen bytes at `start`, mixed with those of the secret at `key`. -/
def mix16 (bytes : Array UInt8) (start key : Nat) : UInt64 :=
  foldProduct (read64 bytes start ^^^ secret64 key)
    (read64 bytes (start + 8) ^^^ secret64 (key + 8))

/-! ## Inputs of up to 240 bytes -/

/-- The hash of one to three bytes. -/
def hash1to3 (bytes : Array UInt8) : UInt64 :=
  let n := bytes.size
  let byte (i : Nat) : UInt64 := (bytes.getD i 0).toUInt64
  let combined := byte 0 <<< 16 ||| byte (n / 2) <<< 24 ||| byte (n - 1) ||| n.toUInt64 <<< 8
  strongAvalanche (combined ^^^ (read32 secret 0 ^^^ read32 secret 4))

/-- The hash of four to eight bytes. -/
def hash4to8 (bytes : Array UInt8) : UInt64 :=
  let n := bytes.size
  let input := read32 bytes (n - 4) + read32 bytes 0 <<< 32
  let h := input ^^^ (secret64 8 ^^^ secret64 16)
  let h := (h ^^^ rotateLeft h 49 ^^^ rotateLeft h 24) * 0x9FB21C651E98DF25
  let h := (h ^^^ (h >>> 35 + n.toUInt64)) * 0x9FB21C651E98DF25
  h ^^^ h >>> 28

/-- The hash of nine to sixteen bytes. -/
def hash9to16 (bytes : Array UInt8) : UInt64 :=
  let n := bytes.size
  let low := read64 bytes 0 ^^^ (secret64 24 ^^^ secret64 32)
  let high := read64 bytes (n - 8) ^^^ (secret64 40 ^^^ secret64 48)
  avalanche (n.toUInt64 + swapBytes low + high + foldProduct low high)

/-- The hash of 17 to 128 bytes: pairs of sixteen bytes from either end. -/
def hash17to128 (bytes : Array UInt8) : UInt64 :=
  let n := bytes.size
  let pairs := (n - 1) / 32 + 1
  avalanche ((List.range pairs).foldl
    (fun acc i =>
      acc + mix16 bytes (16 * i) (32 * i) + mix16 bytes (n - 16 * (i + 1)) (32 * i + 16))
    (n.toUInt64 * prime64A))

/-- The hash of 129 to 240 bytes. -/
def hash129to240 (bytes : Array UInt8) : UInt64 :=
  let n := bytes.size
  let front := avalanche ((List.range 8).foldl
    (fun acc i => acc + mix16 bytes (16 * i) (16 * i)) (n.toUInt64 * prime64A))
  let middle := (List.range (n / 16 - 8)).foldl
    (fun acc i => acc + mix16 bytes (16 * (i + 8)) (16 * i + 3)) front
  avalanche (middle + mix16 bytes (n - 16) 119)

/-! ## Longer inputs -/

/-- The lanes before the first stripe. -/
def initialLanes : Array UInt64 :=
  #[prime32C, prime64A, prime64B, prime64C, prime64D, prime32B, prime64E, prime32A]

/-- The lanes after the stripe at `start` was added under the secret at `key`. -/
def addStripe (bytes : Array UInt8) (lanes : Array UInt64) (start key : Nat) : Array UInt64 :=
  lanes.mapIdx fun i (lane : UInt64) =>
    let keyed := read64 bytes (start + 8 * i) ^^^ secret64 (key + 8 * i)
    let neighbour := read64 bytes (start + 8 * (i ^^^ 1))
    lane + neighbour + (keyed &&& (0xFFFFFFFF : UInt64)) * (keyed >>> 32)

/-- The lanes after `count` stripes from `start` on. -/
def addStripes (bytes : Array UInt8) (lanes : Array UInt64) (start count : Nat) :
    Array UInt64 :=
  (List.range count).foldl
    (fun lanes i => addStripe bytes lanes (start + 64 * i) (8 * i)) lanes

/-- The lanes scrambled at the end of a block of sixteen stripes. -/
def scramble (lanes : Array UInt64) : Array UInt64 :=
  lanes.mapIdx fun i (lane : UInt64) =>
    (lane ^^^ (lane >>> 47) ^^^ secret64 (128 + 8 * i)) * prime32A

/-- The hash of more than 240 bytes. -/
def hashLong (bytes : Array UInt8) : UInt64 :=
  let n := bytes.size
  let blocks := (n - 1) / 1024
  let lanes := (List.range blocks).foldl
    (fun lanes i => scramble (addStripes bytes lanes (1024 * i) 16)) initialLanes
  let lanes := addStripes bytes lanes (1024 * blocks) ((n - 1 - 1024 * blocks) / 64)
  let lanes := addStripe bytes lanes (n - 64) 121
  avalanche ((List.range 4).foldl
    (fun acc i =>
      acc + foldProduct (lanes.getD (2 * i) 0 ^^^ secret64 (11 + 16 * i))
        (lanes.getD (2 * i + 1) 0 ^^^ secret64 (19 + 16 * i)))
    (n.toUInt64 * prime64A))

/-- The hash of a sequence of bytes. -/
def hash (input : List UInt8) : UInt64 :=
  let bytes := input.toArray
  let n := bytes.size
  if n = 0 then strongAvalanche (secret64 56 ^^^ secret64 64)
  else if n ≤ 3 then hash1to3 bytes
  else if n ≤ 8 then hash4to8 bytes
  else if n ≤ 16 then hash9to16 bytes
  else if n ≤ 128 then hash17to128 bytes
  else if n ≤ 240 then hash129to240 bytes
  else hashLong bytes

end HostMetrics.Hash.Xxh3
