/-!
# FNV-1a Hashes

A hash of 64 bits, fed with one byte after the other: a byte is added to the
hash bit by bit without carry, and the sum is multiplied by a prime. What has
gone in before counts only through the hash that it came to. So two texts that
come to the same hash still do when the same bytes are written behind both, and
there are such texts, since there are more texts than hashes.

## Main definitions

* `Fnv.feed`: The hash after one more byte.
* `Fnv.hash`: The hash of some bytes.
-/

namespace StorageGauges

namespace Fnv

/-- The hash of no bytes. -/
def basis : UInt64 :=
  0xCBF29CE484222325

/-- What the hash is multiplied by for every byte. -/
def prime : UInt64 :=
  0x100000001B3

/-- The hash after one more byte. -/
def feed (h : UInt64) (b : UInt8) : UInt64 :=
  (h ^^^ b.toUInt64) * prime

/-- The hash of some bytes. -/
def hash (bytes : List UInt8) : UInt64 :=
  bytes.foldl feed basis

end Fnv

end StorageGauges
