import Mathlib.Data.Nat.ModEq
import ReliableDatagram.Wire.Checksum
/-!
# One's-complement arithmetic of the checksum

The running sum of a segment's checksum adds 32-bit words with end-around carry. Each addition
is exact: the wrapped sum plus the carry never wraps again (`toNat_addWord_eq_add_carry`). Read
as a number, such a sum is determined by the plain total of the words it added: it is zero
exactly when the total is zero, and otherwise the number in `[1, 2^32 - 1]` that is congruent to
the total modulo `2^32 - 1` (`Checksum.fold`). The words are those `accumulate` cuts the bytes
into (`Checksum.terms`: whole big-endian words, then a 16-bit and an 8-bit term for the tail),
and `toNat_accumulate` turns every statement about a checksum into arithmetic modulo
`2^32 - 1`, which `omega` decides.

A 32-bit field at a word-aligned offset of a checksummed region is one word of the sum, whatever
the tail rule does after it. Writing into such a field the checksum computed with the field zero
makes the region verify, that is, leave residue zero (`ofRegion_sealed_aligned`). The checksum
field of a segment is its third word, bytes 8 to 11, and lies inside every checksummed region.
Two facts about it carry the codec's round trips:

* `ofRegion_sealed`: the aligned sealing at offset 8;
* `ofRegion_field_zero`: conversely the field of a verifying region is what that computation
  gives, except that an all-ones field, the other spelling of zero, is recomputed as zero.

Main statement (`Checksum.end_around_sum_laws`): the four laws together, for every byte string,
every running sum and word, and every aligned field of every region.
-/

namespace ReliableDatagram

namespace Checksum

/-- The one's-complement reading of a total: zero only for a zero total, otherwise the number in
`[1, 2^32 - 1]` congruent to it modulo `2^32 - 1`. -/
def fold (t : Nat) : Nat :=
  if t = 0 then 0 else (t - 1) % 4294967295 + 1

/-- The numbers an accumulation adds for a byte string, summed as natural numbers. -/
def wordSum : Bytes → Nat
  | b0 :: b1 :: b2 :: b3 :: rest => (Word.toUInt32 b0 b1 b2 b3).toNat + wordSum rest
  | [b0, b1, b2] => (Word.toUInt16 b0 b1).toNat + b2.toNat
  | [b0, b1] => (Word.toUInt16 b0 b1).toNat
  | [b0] => b0.toNat
  | [] => 0

/-- The words an accumulation adds for a byte string, in order: each whole big-endian word, then
for a tail of three bytes a 16-bit word and a byte, for two a 16-bit word, for one a byte. -/
def terms : Bytes → List UInt32
  | b0 :: b1 :: b2 :: b3 :: rest => Word.toUInt32 b0 b1 b2 b3 :: terms rest
  | [b0, b1, b2] => [(Word.toUInt16 b0 b1).toUInt32, b2.toUInt32]
  | [b0, b1] => [(Word.toUInt16 b0 b1).toUInt32]
  | [b0] => [b0.toUInt32]
  | [] => []

/-- Accumulating a byte string adds its terms one after the other. -/
theorem accumulate_eq_foldl (c : Checksum) (bytes : Bytes) :
    accumulate c bytes = (terms bytes).foldl addWord c := by
  fun_induction accumulate c bytes with
  | case1 c b0 b1 b2 b3 rest ih => rw [ih, terms, List.foldl_cons]
  | case2 | case3 | case4 | case5 => rfl

theorem wordSum_eq_sum_terms (bytes : Bytes) :
    wordSum bytes = ((terms bytes).map UInt32.toNat).sum := by
  fun_induction wordSum bytes with
  | case1 b0 b1 b2 b3 rest ih => rw [ih, terms, List.map_cons, List.sum_cons]
  | case2 | case3 | case4 => simp [terms]
  | case5 => rfl

theorem fold_le (t : Nat) : fold t ≤ 4294967295 := by
  unfold fold
  split <;> omega

/-- A total that fits a word is its own reading. -/
theorem fold_of_le {t : Nat} (h : t ≤ 4294967295) : fold t = t := by
  unfold fold
  split <;> omega

/-- Reading a total before adding more to it changes nothing: the reading keeps the residue and
keeps a nonzero total nonzero. -/
theorem fold_fold_add (t w : Nat) : fold (fold t + w) = fold (t + w) := by
  unfold fold
  split <;> split <;> split <;> omega

/-- The reading keeps the residue modulo `2^32 - 1`. -/
theorem fold_modEq (t : Nat) : fold t ≡ t [MOD 4294967295] := by
  unfold fold Nat.ModEq
  split <;> omega

/-- Only a zero total reads as zero. -/
theorem fold_eq_zero_iff (t : Nat) : fold t = 0 ↔ t = 0 := by
  unfold fold
  split <;> omega

/-- An addition with end-around carry is the reading of the plain sum. -/
theorem toNat_addWord (c : Checksum) (w : UInt32) :
    (c.addWord w).sum.toNat = fold (c.sum.toNat + w.toNat) := by
  have hc := c.sum.toNat_lt
  have hw := w.toNat_lt
  unfold addWord fold
  simp only
  -- the wrapped sum is below the word exactly when the addition carried
  split
  · rename_i h
    rw [UInt32.lt_iff_toNat_lt, UInt32.toNat_add] at h
    simp only [UInt32.toNat_add, UInt32.toNat_one]
    split <;> omega
  · rename_i h
    rw [UInt32.lt_iff_toNat_lt, UInt32.toNat_add] at h
    simp only [UInt32.toNat_add]
    split <;> omega

/-- An addition with end-around carry is exact: the result is the wrapped sum plus the carry of
the 32-bit addition, and adding the carry never wraps. -/
theorem toNat_addWord_eq_add_carry (c : Checksum) (w : UInt32) :
    (c.addWord w).sum.toNat =
      (c.sum + w).toNat + if 2 ^ 32 ≤ c.sum.toNat + w.toNat then 1 else 0 := by
  have hc := c.sum.toNat_lt
  have hw := w.toNat_lt
  rw [toNat_addWord, UInt32.toNat_add]
  unfold fold
  split <;> split <;> omega

/-- The running sum after a byte string is the reading of the running sum plus the words the
string is cut into. -/
theorem toNat_accumulate (c : Checksum) (bytes : Bytes) :
    (accumulate c bytes).sum.toNat = fold (c.sum.toNat + wordSum bytes) := by
  fun_induction accumulate c bytes with
  | case1 c b0 b1 b2 b3 rest ih =>
    rw [ih, toNat_addWord, fold_fold_add, wordSum, Nat.add_assoc]
  | case2 c b0 b1 b2 =>
    simp only [addByte, addHalf, toNat_addWord, fold_fold_add, wordSum, UInt16.toNat_toUInt32,
      UInt8.toNat_toUInt32, Nat.add_assoc]
  | case3 c b0 b1 => simp only [addHalf, toNat_addWord, wordSum, UInt16.toNat_toUInt32]
  | case4 c b0 => simp only [addByte, toNat_addWord, wordSum, UInt8.toNat_toUInt32]
  | case5 c =>
    have := c.sum.toNat_lt
    rw [wordSum, Nat.add_zero, fold_of_le (by omega)]

/-- A fresh accumulation reads the plain total of the terms of the bytes. -/
theorem toNat_accumulate_fresh (bytes : Bytes) :
    (accumulate {} bytes).sum.toNat = fold ((terms bytes).map UInt32.toNat).sum := by
  rw [toNat_accumulate, wordSum_eq_sum_terms, show ({} : Checksum).sum.toNat = 0 from rfl,
    Nat.zero_add]

/-- A fresh accumulation ends at zero exactly when every term it added is zero. -/
theorem accumulate_sum_eq_zero_iff (bytes : Bytes) :
    (accumulate {} bytes).sum = 0 ↔ ∀ t ∈ terms bytes, t = 0 := by
  rw [← UInt32.toNat_inj, UInt32.toNat_zero, toNat_accumulate_fresh, fold_eq_zero_iff,
    List.sum_eq_zero_iff_forall_eq_nat, List.forall_mem_map]
  refine forall₂_congr fun t _ ↦ ?_
  rw [← UInt32.toNat_inj, UInt32.toNat_zero]

/-- Whole words at the front are added one by one, whatever follows them. -/
theorem wordSum_append {a : Bytes} (ha : 4 ∣ a.length) (b : Bytes) :
    wordSum (a ++ b) = wordSum a + wordSum b := by
  fun_induction wordSum a with
  | case1 b0 b1 b2 b3 rest ih =>
    simp only [List.length_cons] at ha
    simp only [List.cons_append, wordSum, ih (by omega), Nat.add_assoc]
  | case2 | case3 | case4 => simp at ha
  | case5 =>
    rw [List.nil_append]
    exact (Nat.zero_add _).symm

@[simp] theorem wordSum_ofUInt32 (w : UInt32) : wordSum (Word.ofUInt32 w) = w.toNat := by
  simp only [Word.ofUInt32, wordSum, Word.toUInt32_ofUInt32, Nat.add_zero]

@[simp] theorem toNat_value (c : Checksum) : c.value.toNat = 4294967295 - c.sum.toNat := by
  simp [value, UInt32.toNat_not]

/-- Completing a total with the complement of its reading gives a total that reads as all
ones. -/
theorem fold_add_complement (t : Nat) : fold (t + (4294967295 - fold t)) = 4294967295 := by
  unfold fold
  split <;> split <;> omega

/-- When a total completed by `k` reads as all ones and the total is not zero, the complement
of its reading is `k`, except that an all-ones `k` is read as zero. -/
theorem complement_fold_eq {t k : Nat} (ht : 0 < t) (hk : k ≤ 4294967295)
    (h : fold (t + k) = 4294967295) : 4294967295 - fold t = if k = 4294967295 then 0 else k := by
  unfold fold at h ⊢
  split at h <;> split <;> split <;> omega

theorem le_coverage (headerLength : Nat) (includePayload : Bool) (payloadLength : Nat) :
    headerLength ≤ coverage headerLength includePayload payloadLength := by
  unfold coverage
  split <;> omega

section Aligned

variable {front : Bytes} {headerLength : Nat} {includePayload : Bool} {payloadLength : Nat}

/-- The checksum of a region with the field `w` at a word-aligned offset inside it: the field is
one word of the sum, and the region is cut after it. -/
theorem toNat_ofRegion_aligned (hf : 4 ∣ front.length) (w : UInt32) (back : Bytes)
    (hcov : front.length + 4 ≤ coverage headerLength includePayload payloadLength) :
    (ofRegion headerLength includePayload (front ++ Word.ofUInt32 w ++ back) payloadLength).toNat =
      4294967295 - fold (wordSum front + w.toNat + wordSum (back.take
        (coverage headerLength includePayload payloadLength - (front.length + 4)))) := by
  have hlen : (front ++ Word.ofUInt32 w).length = front.length + 4 := by simp
  unfold ofRegion
  rw [List.take_append, List.take_of_length_le (by omega), hlen, toNat_value, toNat_accumulate,
    wordSum_append (by omega), wordSum_append hf, wordSum_ofUInt32]
  rw [show ({} : Checksum).sum.toNat = 0 from rfl, Nat.zero_add]

/-- A region whose aligned field holds the checksum computed with the field zero verifies: its
residue is zero. -/
theorem ofRegion_sealed_aligned (hf : 4 ∣ front.length) (back : Bytes)
    (hcov : front.length + 4 ≤ coverage headerLength includePayload payloadLength) :
    ofRegion headerLength includePayload (front ++ Word.ofUInt32
      (ofRegion headerLength includePayload (front ++ Word.ofUInt32 0 ++ back) payloadLength) ++
        back) payloadLength = 0 := by
  apply UInt32.toNat.inj
  rw [toNat_ofRegion_aligned hf _ _ hcov, toNat_ofRegion_aligned hf _ _ hcov, UInt32.toNat_zero,
    Nat.add_zero]
  generalize wordSum (back.take
    (coverage headerLength includePayload payloadLength - (front.length + 4))) = b
  -- the complement completes the total of the rest, wherever the field stands in it
  have hsplit : wordSum front + (4294967295 - fold (wordSum front + b)) + b =
      wordSum front + b + (4294967295 - fold (wordSum front + b)) := by omega
  rw [hsplit, fold_add_complement]

end Aligned

/-- The checksum of a region whose third word is the field `w`: the region is cut after the
field, and the field is one word of the sum. -/
theorem toNat_ofRegion_field {front : Bytes} (hf : front.length = 8) (w : UInt32) (back : Bytes)
    {headerLength : Nat} (hl : 12 ≤ headerLength) (includePayload : Bool) (payloadLength : Nat) :
    (ofRegion headerLength includePayload (front ++ Word.ofUInt32 w ++ back) payloadLength).toNat =
      4294967295 - fold (wordSum front + w.toNat +
        wordSum (back.take (coverage headerLength includePayload payloadLength - 12))) := by
  have hcov := le_coverage headerLength includePayload payloadLength
  rw [toNat_ofRegion_aligned (by rw [hf]; decide) w back (by omega), hf]

/-- A region whose field holds the checksum computed with the field zero verifies: its residue is
zero. -/
theorem ofRegion_sealed {front : Bytes} (hf : front.length = 8) (back : Bytes)
    {headerLength : Nat} (hl : 12 ≤ headerLength) (includePayload : Bool) (payloadLength : Nat) :
    ofRegion headerLength includePayload (front ++ Word.ofUInt32
      (ofRegion headerLength includePayload (front ++ Word.ofUInt32 0 ++ back) payloadLength) ++
        back) payloadLength = 0 := by
  have hcov := le_coverage headerLength includePayload payloadLength
  exact ofRegion_sealed_aligned (by rw [hf]; decide) back (by omega)

/-- The field of a verifying region is determined by the rest, up to the two spellings of zero:
recomputing the checksum with the field zero gives the field back, or zero where the field was
all ones. The rest must not sum to zero. -/
theorem ofRegion_field_zero {front : Bytes} (hf : front.length = 8) {w : UInt32} (back : Bytes)
    {headerLength : Nat} (hl : 12 ≤ headerLength) {includePayload : Bool} {payloadLength : Nat}
    (hw : ofRegion headerLength includePayload (front ++ Word.ofUInt32 w ++ back) payloadLength = 0)
    (hfront : 0 < wordSum front) :
    ofRegion headerLength includePayload (front ++ Word.ofUInt32 0 ++ back) payloadLength =
      if w = 0xFFFFFFFF then 0 else w := by
  have hv := congrArg UInt32.toNat hw
  rw [toNat_ofRegion_field hf _ _ hl, UInt32.toNat_zero] at hv
  apply UInt32.toNat.inj
  rw [toNat_ofRegion_field hf _ _ hl, UInt32.toNat_zero, Nat.add_zero]
  generalize wordSum (back.take (coverage headerLength includePayload payloadLength - 12)) = b
    at hv ⊢
  have hk := w.toNat_lt
  have hsum : fold (wordSum front + b + w.toNat) = 4294967295 := by
    have := fold_le (wordSum front + w.toNat + b)
    rw [show wordSum front + b + w.toNat = wordSum front + w.toNat + b by omega]
    omega
  rw [complement_fold_eq (by omega) (by omega) hsum]
  by_cases h : w = 0xFFFFFFFF
  · simp [h]
  · have hn : w.toNat ≠ 4294967295 := by
      intro h'
      apply h
      apply UInt32.toNat.inj
      rw [h']
      rfl
    simp [h, hn]

/-- The laws of the end-around-carry sum. Accumulating a byte string from a fresh sum gives a
value congruent modulo `2^32 - 1` to the total of its terms, and zero only when every term is
zero; each addition is the wrapped sum plus the carry, which never wraps again; and writing the
checksum of a region, taken with a word-aligned field inside it zero, into that field makes the
region's checksum zero. -/
theorem end_around_sum_laws :
    (∀ bytes : Bytes,
      (accumulate {} bytes).sum.toNat ≡ ((terms bytes).map UInt32.toNat).sum [MOD 4294967295] ∧
      ((accumulate {} bytes).sum = 0 ↔ ∀ t ∈ terms bytes, t = 0)) ∧
    (∀ (c : Checksum) (w : UInt32),
      (c.sum + w).toNat + (if 2 ^ 32 ≤ c.sum.toNat + w.toNat then 1 else 0) < 2 ^ 32 ∧
      (c.addWord w).sum.toNat =
        (c.sum + w).toNat + if 2 ^ 32 ≤ c.sum.toNat + w.toNat then 1 else 0) ∧
    (∀ (front back : Bytes) (headerLength : Nat) (includePayload : Bool) (payloadLength : Nat),
      4 ∣ front.length → front.length + 4 ≤ coverage headerLength includePayload payloadLength →
      ofRegion headerLength includePayload (front ++ Word.ofUInt32
        (ofRegion headerLength includePayload (front ++ Word.ofUInt32 0 ++ back) payloadLength) ++
          back) payloadLength = 0) := by
  refine ⟨fun bytes ↦ ⟨?_, accumulate_sum_eq_zero_iff bytes⟩,
    fun c w ↦ ⟨?_, toNat_addWord_eq_add_carry c w⟩,
    fun front back _ _ _ hf hcov ↦ ofRegion_sealed_aligned hf back hcov⟩
  · rw [toNat_accumulate_fresh]
    exact fold_modEq _
  · rw [← toNat_addWord_eq_add_carry]
    exact (c.addWord w).sum.toNat_lt

/-- Sealing a region of eight bytes, the field and three payload bytes, covered by a twelve-byte
header and the payload. -/
theorem sealed_after_eight_bytes :
    4 ∣ ([1, 2, 3, 4, 5, 6, 7, 8] : Bytes).length ∧
    ([1, 2, 3, 4, 5, 6, 7, 8] : Bytes).length + 4 ≤ coverage 12 true 3 ∧
    ofRegion 12 true ([1, 2, 3, 4, 5, 6, 7, 8] ++ Word.ofUInt32
      (ofRegion 12 true ([1, 2, 3, 4, 5, 6, 7, 8] ++ Word.ofUInt32 0 ++ [9, 10, 11]) 3) ++
        [9, 10, 11]) 3 = 0 :=
  ⟨by decide, by decide, end_around_sum_laws.2.2 _ [9, 10, 11] 12 true 3 (by decide) (by decide)⟩

end Checksum

end ReliableDatagram
