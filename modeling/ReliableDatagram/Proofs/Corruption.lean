import ReliableDatagram.Proofs.Checksum
import ReliableDatagram.Proofs.RoundTrip
/-!
# A corrupted byte is caught

Changing one byte of an accepted datagram makes decoding refuse it for its checksum, unless the
byte is one the earlier checks read: the description, the version, the header length or the
payload length field.

Two facts carry this:

* every byte of an accepted datagram lies under its checksum (`length_le_coverage`): the
  length checks make the header fill the datagram when CHK is clear, and header and payload
  fill it when CHK is set;
* a byte of the checksummed region enters the sum with a place value of at most `2^24`
  (`Checksum.wordSum_set`), so changing it moves the total by a nonzero amount of magnitude
  below `2^32 - 1`, and a verifying total, a multiple of `2^32 - 1`, stops being one
  (`Checksum.ofRegion_set_ne_zero`).

The main statements are `Segment.parse_set_checksumMismatch`, for every accepted datagram, and
`Header.Built.corrupted_byte_caught`, for every segment serialized from a builder's header.
-/

namespace ReliableDatagram

/-- Flipping a nonempty set of bits changes a byte. -/
theorem xor_ne_self (a : UInt8) {m : UInt8} (hm : m ≠ 0) : a ^^^ m ≠ a := by
  intro h
  apply hm
  have := congrArg (· ^^^ a) h
  simpa [UInt8.xor_comm, ← UInt8.xor_assoc] using this

namespace Word

/-- The number two bytes spell, most significant first. -/
theorem toNat_toUInt16 (hi lo : UInt8) : (toUInt16 hi lo).toNat = hi.toNat * 256 + lo.toNat := by
  have := hi.toNat_lt
  have := lo.toNat_lt
  simp only [toUInt16, UInt16.toNat_add, UInt16.toNat_mul, UInt8.toNat_toUInt16]
  simp only [UInt16.reduceToNat, Nat.reducePow]
  omega

end Word

namespace Checksum

/-! ### One byte of the sum -/

/-- Each byte enters the sum with a place value: `2^24`, `2^16`, `2^8` or `1` inside a whole
word, `2^8` or `1` in a tail. Replacing the byte changes the sum by the change of the byte
times that value. -/
theorem wordSum_set (l : Bytes) {i : Nat} (hi : i < l.length) (x : UInt8) :
    ∃ w, (w = 1 ∨ w = 256 ∨ w = 65536 ∨ w = 16777216) ∧
      wordSum (l.set i x) + l[i].toNat * w = wordSum l + x.toNat * w := by
  induction l using wordSum.induct generalizing i with
  | case1 b0 b1 b2 b3 rest ih =>
    by_cases h4 : i < 4
    · -- a byte of the leading word
      obtain rfl | rfl | rfl | rfl : i = 0 ∨ i = 1 ∨ i = 2 ∨ i = 3 := by omega
      · exact ⟨16777216, by simp, by simp [wordSum, Word.toNat_toUInt32]; omega⟩
      · exact ⟨65536, by simp, by simp [wordSum, Word.toNat_toUInt32]; omega⟩
      · exact ⟨256, by simp, by simp [wordSum, Word.toNat_toUInt32]; omega⟩
      · exact ⟨1, by simp, by simp [wordSum, Word.toNat_toUInt32]; omega⟩
    · obtain ⟨j, rfl⟩ : ∃ j, i = j + 4 := ⟨i - 4, by omega⟩
      obtain ⟨w, hw, hs⟩ := ih (i := j) (by simp at hi; omega)
      refine ⟨w, hw, ?_⟩
      simp only [List.set_cons_succ, wordSum, List.getElem_cons_succ]
      omega
  | case2 b0 b1 b2 =>
    simp only [List.length_cons, List.length_nil] at hi
    obtain rfl | rfl | rfl : i = 0 ∨ i = 1 ∨ i = 2 := by omega
    · exact ⟨256, by simp, by simp [wordSum, Word.toNat_toUInt16]; omega⟩
    · exact ⟨1, by simp, by simp [wordSum, Word.toNat_toUInt16]; omega⟩
    · exact ⟨1, by simp, by simp [wordSum, Word.toNat_toUInt16]; omega⟩
  | case3 b0 b1 =>
    simp only [List.length_cons, List.length_nil] at hi
    obtain rfl | rfl : i = 0 ∨ i = 1 := by omega
    · exact ⟨256, by simp, by simp [wordSum, Word.toNat_toUInt16]; omega⟩
    · exact ⟨1, by simp, by simp [wordSum, Word.toNat_toUInt16]; omega⟩
  | case4 b0 =>
    obtain rfl : i = 0 := by simpa using hi
    exact ⟨1, by simp, by simp [wordSum]; omega⟩
  | case5 => simp at hi

/-- A total reads as all ones exactly when it is a nonzero multiple of `2^32 - 1`. -/
theorem fold_eq_ones_iff (t : Nat) : fold t = 4294967295 ↔ 0 < t ∧ t % 4294967295 = 0 := by
  unfold fold
  split <;> omega

/-- A region verifies exactly when the total of its words reads as all ones. -/
theorem ofRegion_eq_zero_iff (L : Nat) (chk : Bool) (bytes : Bytes) (n : Nat) :
    ofRegion L chk bytes n = 0 ↔
      fold (wordSum (bytes.take (coverage L chk n))) = 4294967295 := by
  have hle := fold_le (wordSum (bytes.take (coverage L chk n)))
  rw [← UInt32.toNat_inj, ofRegion, toNat_value, toNat_accumulate]
  simp only [UInt32.toNat_zero]
  rw [Nat.zero_add]
  omega

/-- Changing one byte of a verifying region that covers the whole string makes it fail: the
total moves by less than `2^32 - 1`, and not by zero. -/
theorem ofRegion_set_ne_zero {L : Nat} {chk : Bool} {n : Nat} {b : Bytes}
    (hcov : b.length ≤ coverage L chk n) (h0 : ofRegion L chk b n = 0) {i : Nat}
    (hi : i < b.length) {x : UInt8} (hx : x ≠ b[i]) : ofRegion L chk (b.set i x) n ≠ 0 := by
  have hcov' : (b.set i x).length ≤ coverage L chk n := by simpa using hcov
  rw [ofRegion_eq_zero_iff, List.take_of_length_le hcov, fold_eq_ones_iff] at h0
  rw [ne_eq, ofRegion_eq_zero_iff, List.take_of_length_le hcov', fold_eq_ones_iff]
  obtain ⟨w, hw, hsum⟩ := wordSum_set b hi x
  have hne : x.toNat ≠ b[i].toNat := fun h ↦ hx (UInt8.toNat_inj.1 h)
  have := x.toNat_lt
  have := b[i].toNat_lt
  rcases hw with rfl | rfl | rfl | rfl <;> omega

end Checksum

namespace Common

/-- Every twelve bytes are the bytes of some common part. -/
theorem exists_bytes_eq {l : Bytes} (hl : l.length = 12) : ∃ c : Common, c.bytes = l := by
  match l, hl with
  | [d, v, r, len, s0, s1, a0, a1, c0, c1, c2, c3], _ =>
    exact ⟨⟨⟨d⟩, v, r, len, Word.toUInt16 s0 s1, Word.toUInt16 a0 a1,
      Word.toUInt32 c0 c1 c2 c3⟩, by simp [bytes]⟩

/-- Changing a byte of a common part other than the description, the version and the header
length gives the bytes of a common part that agrees on those three. -/
theorem exists_bytes_set (c : Common) {i : Nat} (h0 : i ≠ 0) (h1 : i ≠ 1) (h3 : i ≠ 3)
    (x : UInt8) :
    ∃ c' : Common, c'.bytes = c.bytes.set i x ∧ c'.flags = c.flags ∧ c'.version = c.version ∧
      c'.headerLength = c.headerLength := by
  obtain ⟨c', hc'⟩ := exists_bytes_eq (l := c.bytes.set i x) (by simp [commonHeaderLength])
  have hat (k : Nat) (hk : k ≠ i) : c'.bytes[k]? = c.bytes[k]? := by
    rw [hc', List.getElem?_set_ne (Ne.symm hk)]
  have hf := hat 0 (Ne.symm h0)
  have hv := hat 1 (Ne.symm h1)
  have hl := hat 3 (Ne.symm h3)
  simp only [bytes_eq, List.getElem?_cons_zero, List.getElem?_cons_succ, Option.some.injEq]
    at hf hv hl
  exact ⟨c', hc', congrArg Flags.mk hf, hv, hl⟩

end Common

namespace Flags

/-- A description that announces a payload length field announces an acknowledgment. -/
theorem kind_of_carriesLength {f : Flags} (h : f.carriesLength = true) :
    f.kind = .ack ∨ f.kind = .eack := by
  simp only [carriesLength, Bool.not_eq_eq_eq_not, Bool.not_true, Bool.or_eq_false_iff] at h
  obtain ⟨⟨hs, hr⟩, hn⟩ := h
  cases he : f.has .eack
  · exact .inl (kind_eq_ack.2 ⟨hs, hr, hn, he⟩)
  · exact .inr (kind_eq_eack.2 ⟨hs, hr, hn, he⟩)

end Flags

namespace Segment

/-! ### What the checks before the checksum read -/

/-- The length checks read nothing after the common part but the payload length field. -/
theorem checkLengths_congr {f : Flags} {len : UInt8} {total : Nat} {rest rest' : Bytes}
    (h : f.carriesLength = true → rest.take 2 = rest'.take 2) :
    checkLengths f len total rest = checkLengths f len total rest' := by
  unfold checkLengths
  split
  · rename_i hc
    have h2 := h hc
    -- only the word read matters, not what follows it
    have hread : (Word.read16 rest).map Prod.fst = (Word.read16 rest').map Prod.fst := by
      rcases rest with _ | ⟨a, _ | ⟨b, r⟩⟩ <;> rcases rest' with _ | ⟨a', _ | ⟨b', r'⟩⟩ <;>
        simp_all [Word.read16]
    cases h1 : Word.read16 rest <;> cases h2 : Word.read16 rest' <;> simp_all
  · rfl

/-- **The checksum covers every byte** of a datagram that passes the length checks. -/
theorem length_le_coverage {f : Flags} {len : UInt8} {total : Nat} {rest : Bytes} {pl : Nat}
    (h : checkLengths f len total rest = .ok pl) :
    total ≤ Checksum.coverage len.toNat (f.has .chk) pl := by
  unfold checkLengths at h
  split at h
  · split at h
    · cases h
    · split at h
      · cases h
      · rename_i hcheck
        cases h
        simp only [Bool.or_eq_true, decide_eq_true_eq, Bool.and_eq_true, Bool.not_eq_eq_eq_not,
          Bool.not_true, not_or, not_and, Bool.not_eq_false] at hcheck
        unfold Checksum.coverage
        split <;> grind
  · split at h
    · cases h
    · rename_i hcheck
      cases h
      unfold Checksum.coverage
      split <;> grind

/-- A datagram refused by its version or its description is not accepted. -/
theorem valid_of_parse_eq_ok {c : Common} {rest : Bytes} {seg : Segment}
    (hp : parse (c.bytes ++ rest) = .ok seg) :
    c.version = protocolVersion ∧ c.flags.valid = true := by
  rw [parse_bytes_append] at hp
  by_cases hv : c.version = protocolVersion
  · by_cases hf : c.flags.valid = true
    · exact ⟨hv, hf⟩
    · simp [hv, hf] at hp
  · simp [hv] at hp

/-- A datagram that passes the version, description and length checks but leaves a residue is
refused for its checksum, with that residue. -/
theorem parse_eq_checksumMismatch {c : Common} {rest : Bytes} {pl : Nat}
    (hv : c.version = protocolVersion) (hf : c.flags.valid = true)
    (hl : checkLengths c.flags c.headerLength (c.bytes ++ rest).length rest = .ok pl)
    (hr : Checksum.ofRegion c.headerLength.toNat (c.flags.has .chk) (c.bytes ++ rest) pl ≠ 0) :
    parse (c.bytes ++ rest) = .error (.checksumMismatch
      (Checksum.ofRegion c.headerLength.toNat (c.flags.has .chk) (c.bytes ++ rest) pl)) := by
  rw [parse_bytes_append]
  simp only [hv, hf, ne_eq, not_true_eq_false, ↓reduceIte, Bool.not_true, Bool.false_eq_true]
  rw [hl]
  simp only [bind, Except.bind, hr]
  rfl

/-! ### One changed byte -/

/-- **A changed byte fails the checksum.** In a datagram that decodes, changing any byte but the
description, the version, the header length and (for an acknowledgment) the payload length
field makes decoding refuse it for its checksum. -/
theorem parse_set_checksumMismatch {b : Bytes} {seg : Segment} (hp : parse b = .ok seg)
    {i : Nat} (hi : i < b.length) (h2 : 2 ≤ i) (h3 : i ≠ 3)
    (hfield : seg.header.common.flags.carriesLength = true → i ≠ 12 ∧ i ≠ 13)
    {x : UInt8} (hx : x ≠ b[i]) : ∃ r, parse (b.set i x) = .error (.checksumMismatch r) := by
  obtain ⟨c, rest, pl, rfl, -, hl, hres, hrh, -⟩ := parse_eq_ok hp
  obtain ⟨hv, hf⟩ := valid_of_parse_eq_ok hp
  rw [(readHeader_inv hl hrh).1] at hfield
  have hres' := Checksum.ofRegion_set_ne_zero (length_le_coverage hl) hres hi hx
  by_cases hlt : i < 12
  · -- a byte of the common part: another common part with the same checked fields
    obtain ⟨c', hbytes, hf', hv', hl'⟩ := c.exists_bytes_set (i := i) (by omega) (by omega) h3 x
    have hset : (c.bytes ++ rest).set i x = c'.bytes ++ rest := by
      rw [List.set_append_left i x (by simp [commonHeaderLength]; omega), hbytes]
    have hlen : (c'.bytes ++ rest).length = (c.bytes ++ rest).length := by simp
    rw [hset] at hres' ⊢
    rw [← hf', ← hl'] at hres'
    refine ⟨_, parse_eq_checksumMismatch (hv' ▸ hv) (hf' ▸ hf) ?_ hres'⟩
    rw [hf', hl', hlen]
    exact hl
  · -- a byte after the common part: the payload length field, if any, is untouched
    have hset : (c.bytes ++ rest).set i x = c.bytes ++ rest.set (i - 12) x :=
      List.set_append_right i x (by simp [commonHeaderLength]; omega)
    rw [hset] at hres' ⊢
    refine ⟨_, parse_eq_checksumMismatch hv hf ?_ hres'⟩
    have htake (hc : c.flags.carriesLength = true) : rest.take 2 = (rest.set (i - 12) x).take 2 :=
      (List.take_set_of_le (by have := hfield hc; omega)).symm
    rw [← checkLengths_congr htake, List.length_append, List.length_set, ← List.length_append]
    exact hl

end Segment

namespace Header

/-- **Single-byte corruption is caught.** Serialize a header a builder returned with a payload of
the length it announces. Changing any byte from the third on by a nonzero mask, except the
header length and, for an acknowledgment, the payload length field, makes decoding refuse the
segment for its checksum. -/
theorem Built.corrupted_byte_caught {h : Header} (hb : h.Built) {payload : Bytes}
    (hp : payload.length = h.payloadLength.toNat) {out b : Bytes}
    (hs : (h.serialize payload out).2.2 = out ++ b) {i : Nat} (hi : i < b.length) (h2 : 2 ≤ i)
    (h3 : i ≠ 3) (hfield : h.kind = .ack ∨ h.kind = .eack → i ≠ 12 ∧ i ≠ 13) {m : UInt8}
    (hm : m ≠ 0) : ∃ r, Segment.parse (b.set i (b[i] ^^^ m)) = .error (.checksumMismatch r) := by
  have hsend := hb.sendable
  rw [serialize, encode_eq_of_fits (checkPayload_eq_ok hsend.formed hp) hsend.fits] at hs
  obtain rfl := List.append_cancel_left hs
  refine Segment.parse_set_checksumMismatch (parse_stamp hsend hp) hi h2 h3 (fun hc ↦ ?_)
    (xor_ne_self _ hm)
  -- the stamp keeps the description, which announces the header's kind
  have hflags : (h.stamp (h.sealSum payload)).common.flags = h.common.flags := by
    simp [stamp]
  have hformed : h.common.flags.kind = h.kind := hsend.formed
  rw [hflags] at hc
  exact hfield (hformed ▸ Flags.kind_of_carriesLength hc)

/-- A data segment of two bytes with one bit of its checksum field flipped is refused for its
checksum. -/
theorem data_checksumBit_caught :
    (buildData 9 4 2).Built ∧ [7, 8].length = (buildData 9 4 2).payloadLength.toNat ∧
    ((buildData 9 4 2).serialize [7, 8] []).2.2 =
      [] ++ [40, 1, 0, 14, 0, 9, 0, 4, 215, 243, 248, 229, 0, 2, 7, 8] ∧
    ∃ r, Segment.parse ([40, 1, 0, 14, 0, 9, 0, 4, 215, 243, 248, 229, 0, 2, 7, 8].set 9
      (([40, 1, 0, 14, 0, 9, 0, 4, 215, 243, 248, 229, 0, 2, 7, 8] : Bytes)[9] ^^^ 16)) =
      .error (.checksumMismatch r) :=
  have hs : ((buildData 9 4 2).serialize [7, 8] []).2.2 =
      [] ++ [40, 1, 0, 14, 0, 9, 0, 4, 215, 243, 248, 229, 0, 2, 7, 8] := by decide
  ⟨.data 9 4 2, rfl, hs, Built.corrupted_byte_caught (.data 9 4 2) rfl hs (by decide) (by decide)
    (by decide) (fun _ ↦ by decide) (by decide)⟩

end Header

end ReliableDatagram
