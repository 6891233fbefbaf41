/-!
# Big-endian words on byte strings

Every multi-byte field of a segment is written most significant byte first. This module fixes
the byte-string type `Bytes` and the two field widths the wire format uses: 16-bit words
(sequence numbers, lengths, configuration fields) and 32-bit words (the checksum).

Writing uses `UInt8` truncation of a shifted word; reading uses arithmetic on the byte values,
`256 * hi + lo`, so that statements about a read field reduce to `Nat` arithmetic.
-/

namespace ReliableDatagram

/-- A byte string: a datagram, a payload or a stored segment. -/
abbrev Bytes := List UInt8

namespace Word

/-- The two bytes of a 16-bit word, most significant first. -/
def ofUInt16 (w : UInt16) : Bytes :=
  [(w >>> 8).toUInt8, w.toUInt8]

/-- The four bytes of a 32-bit word, most significant first. -/
def ofUInt32 (w : UInt32) : Bytes :=
  [(w >>> 24).toUInt8, (w >>> 16).toUInt8, (w >>> 8).toUInt8, w.toUInt8]

/-- The 16-bit word whose bytes are `hi` then `lo`. -/
def toUInt16 (hi lo : UInt8) : UInt16 :=
  hi.toUInt16 * 256 + lo.toUInt16

/-- The 32-bit word whose bytes are `b0`, `b1`, `b2`, `b3`, most significant first. -/
def toUInt32 (b0 b1 b2 b3 : UInt8) : UInt32 :=
  ((b0.toUInt32 * 256 + b1.toUInt32) * 256 + b2.toUInt32) * 256 + b3.toUInt32

/-- Reads a 16-bit word from the front of a byte string, with what follows it. -/
def read16 : Bytes → Option (UInt16 × Bytes)
  | hi :: lo :: rest => some (toUInt16 hi lo, rest)
  | _ => none

/-- Reads a 32-bit word from the front of a byte string, with what follows it. -/
def read32 : Bytes → Option (UInt32 × Bytes)
  | b0 :: b1 :: b2 :: b3 :: rest => some (toUInt32 b0 b1 b2 b3, rest)
  | _ => none

/-- Reads consecutive 16-bit words; `none` when a byte is left over. -/
def readWords : Bytes → Option (List UInt16)
  | [] => some []
  | [_] => none
  | hi :: lo :: rest => (readWords rest).map (toUInt16 hi lo :: ·)

/-- The bytes of a list of 16-bit words, in order. -/
def ofWords (ws : List UInt16) : Bytes :=
  ws.flatMap ofUInt16

/-- The lowercase hexadecimal digits of `n`, padded with zeros to at least `width` digits. -/
def hexDigits (n width : Nat) : String :=
  let ds := Nat.toDigits 16 n
  String.ofList (List.replicate (width - ds.length) '0' ++ ds)

/-- Reading the two bytes of a 16-bit word gives the word back. -/
@[simp] theorem toUInt16_ofUInt16 (w : UInt16) : toUInt16 (w >>> 8).toUInt8 w.toUInt8 = w := by
  apply UInt16.toNat.inj
  simp [toUInt16, UInt16.toNat_add, UInt16.toNat_mul, UInt16.toNat_shiftRight,
    Nat.shiftRight_eq_div_pow]
  have := w.toNat_lt
  omega

/-- Reading the four bytes of a 32-bit word gives the word back. -/
@[simp] theorem toUInt32_ofUInt32 (w : UInt32) :
    toUInt32 (w >>> 24).toUInt8 (w >>> 16).toUInt8 (w >>> 8).toUInt8 w.toUInt8 = w := by
  apply UInt32.toNat.inj
  simp [toUInt32, UInt32.toNat_add, UInt32.toNat_mul, UInt32.toNat_shiftRight,
    Nat.shiftRight_eq_div_pow]
  have := w.toNat_lt
  omega

@[simp] theorem read16_ofUInt16 (w : UInt16) (rest : Bytes) :
    read16 (ofUInt16 w ++ rest) = some (w, rest) := by
  simp [read16, ofUInt16]

@[simp] theorem read32_ofUInt32 (w : UInt32) (rest : Bytes) :
    read32 (ofUInt32 w ++ rest) = some (w, rest) := by
  simp [read32, ofUInt32]

/-- Reading words back from their bytes gives the words. -/
@[simp] theorem readWords_ofWords (ws : List UInt16) : readWords (ofWords ws) = some ws := by
  induction ws with
  | nil => rfl
  | cons w ws ih => simp [ofWords, ofUInt16, readWords] at ih ⊢; simp [ih]

@[simp] theorem length_ofUInt16 (w : UInt16) : (ofUInt16 w).length = 2 := rfl

@[simp] theorem length_ofUInt32 (w : UInt32) : (ofUInt32 w).length = 4 := rfl

end Word

end ReliableDatagram
