import ReliableDatagram.Wire.Word
/-!
# The one's-complement checksum

A segment is protected by a 32-bit one's-complement sum. The covered bytes are read as
big-endian 32-bit words; a tail of three bytes adds a 16-bit word and then a byte, a tail of two
adds a 16-bit word, and a tail of one adds a byte. Every addition folds its carry back into the
low end (end-around carry), and the stored value is the complement of the sum.

The covered region of a segment is its header, followed by its payload when the `CHK` flag is
set; the region is cut at the end of the bytes actually present.

Because the sum is taken modulo `2^32 - 1`, writing the complement of the sum into a
word-aligned field that was zero while summing makes the sum of the region all ones, so the
recomputed checksum is zero. The decoder relies on this: a segment verifies when its residue
is zero.
-/

namespace ReliableDatagram

/-- A running one's-complement sum of 32-bit words. -/
structure Checksum where
  /-- The sum so far, with every carry folded back in. -/
  sum : UInt32 := 0
  deriving DecidableEq, Repr

namespace Checksum

/-- Adds a word with end-around carry: when the 32-bit addition wraps, one is added back. -/
def addWord (c : Checksum) (w : UInt32) : Checksum :=
  let s := c.sum + w
  ⟨if s < w then s + 1 else s⟩

/-- Adds a 16-bit word as a 32-bit word. -/
def addHalf (c : Checksum) (w : UInt16) : Checksum :=
  c.addWord w.toUInt32

/-- Adds a single byte as a 32-bit word. -/
def addByte (c : Checksum) (b : UInt8) : Checksum :=
  c.addWord b.toUInt32

/-- Adds a byte string: whole big-endian words first, then the tail rule for the last one,
two or three bytes. -/
def accumulate : Checksum → Bytes → Checksum
  | c, b0 :: b1 :: b2 :: b3 :: rest => accumulate (c.addWord (Word.toUInt32 b0 b1 b2 b3)) rest
  | c, [b0, b1, b2] => (c.addHalf (Word.toUInt16 b0 b1)).addByte b2
  | c, [b0, b1] => c.addHalf (Word.toUInt16 b0 b1)
  | c, [b0] => c.addByte b0
  | c, [] => c

/-- The value written into a segment: the complement of the sum. -/
def value (c : Checksum) : UInt32 :=
  ~~~c.sum

/-- The number of leading bytes a checksum covers: the header, and the payload when
`includePayload` is set. -/
def coverage (headerLength : Nat) (includePayload : Bool) (payloadLength : Nat) : Nat :=
  if includePayload then headerLength + payloadLength else headerLength

/-- The checksum of the covered region of `bytes`, cut at the end of `bytes`. -/
def ofRegion (headerLength : Nat) (includePayload : Bool) (bytes : Bytes)
    (payloadLength : Nat) : UInt32 :=
  (accumulate {} (bytes.take (coverage headerLength includePayload payloadLength))).value

end Checksum

end ReliableDatagram
