import ReliableDatagram.Proofs.Corruption
/-!
# Truncated and padded datagrams

A datagram carries no total length of its own: where a segment ends is fixed by its kind. A
SYN, RST or NUL is exactly its fixed header; an acknowledgment announces its payload length,
and its header and payload must fill the datagram. So the length checks of decoding pass for
at most one length among datagrams that extend one another (`Segment.checkLengths_total_eq`),
and since they come before the checksum, every datagram that is a strict prefix of a decodable
one, or extends it, is refused as invalid (`Segment.parse_eq_invalid_of_prefix`); one too short
for the common part fails when the fields are read.

Main statement (`Header.Built.framing_checked`): every strict prefix of a segment serialized
from a builder's header, the empty datagram included, and every datagram that continues past
its end decode to `ParseError.invalid`, never to a segment and never to a checksum mismatch.
-/

namespace ReliableDatagram

namespace Word

/-- A 16-bit word read from the front of a datagram is read from every datagram it begins. -/
theorem read16_of_prefix {l₁ l₂ : Bytes} (hp : l₁ <+: l₂) {w : UInt16} {tail : Bytes}
    (h : read16 l₁ = some (w, tail)) : ∃ tail', read16 l₂ = some (w, tail') := by
  obtain ⟨t, rfl⟩ := hp
  match l₁, h with
  | hi :: lo :: rest, h =>
    simp only [read16, Option.some.injEq, Prod.mk.injEq] at h
    exact ⟨rest ++ t, by simp [read16, h.1]⟩

end Word

namespace Segment

/-- A datagram shorter than the common part is refused when its fields are read. -/
theorem parse_of_length_lt {b : Bytes} (h : b.length < commonHeaderLength) :
    parse b = .error .invalid := by
  unfold parse
  split
  · simp only [List.length_cons, commonHeaderLength] at h
    omega
  · rfl

/-- The length checks refuse only as invalid. -/
theorem checkLengths_error {f : Flags} {len : UInt8} {total : Nat} {rest : Bytes} {err : ParseError}
    (h : checkLengths f len total rest = .error err) : err = .invalid := by
  unfold checkLengths at h
  split at h
  · split at h
    · cases h
      rfl
    · split at h <;> cases h
      rfl
  · split at h <;> cases h
    rfl

/-- Lengths that pass the checks add up: the header and the payload it announces are the
whole datagram. -/
theorem total_of_checkLengths {f : Flags} {len : UInt8} {total : Nat} {rest : Bytes} {n : Nat}
    (h : checkLengths f len total rest = .ok n) : total = len.toNat + n := by
  unfold checkLengths at h
  split at h
  · split at h
    · cases h
    · split at h
      · cases h
      · rename_i hok
        cases h
        simp only [Bool.or_eq_true, decide_eq_true_eq, not_or] at hok
        omega
  · split at h
    · cases h
    · rename_i hok
      cases h
      simp only [Bool.or_eq_true, decide_eq_true_eq, not_or, ne_eq, Decidable.not_not] at hok
      omega

/-- The payload length that passes the checks: the field read after the common part when the
description announces one, zero otherwise. -/
theorem payloadLength_of_checkLengths {f : Flags} {len : UInt8} {total : Nat} {rest : Bytes}
    {n : Nat} (h : checkLengths f len total rest = .ok n) :
    (f.carriesLength = true → ∃ w tail, Word.read16 rest = some (w, tail) ∧ n = w.toNat) ∧
      (f.carriesLength = false → n = 0) := by
  unfold checkLengths at h
  split at h
  · rename_i hcl
    refine ⟨fun _ ↦ ?_, fun hf ↦ absurd hcl (by simp [hf])⟩
    split at h
    · cases h
    · rename_i w tail hr
      split at h
      · cases h
      · cases h
        exact ⟨w, tail, hr, rfl⟩
  · rename_i hcl
    refine ⟨fun ht ↦ absurd ht hcl, fun _ ↦ ?_⟩
    split at h
    · cases h
    · cases h
      rfl

/-- **The length checks fix the datagram's length.** Of two datagrams with the same common
part, one beginning the other after it, at most one length passes the checks. -/
theorem checkLengths_total_eq {f : Flags} {len : UInt8} {total₁ total₂ : Nat}
    {rest₁ rest₂ : Bytes} {n₁ n₂ : Nat} (h₁ : checkLengths f len total₁ rest₁ = .ok n₁)
    (h₂ : checkLengths f len total₂ rest₂ = .ok n₂) (hp : rest₁ <+: rest₂) : total₁ = total₂ := by
  rw [total_of_checkLengths h₁, total_of_checkLengths h₂]
  -- both announce the same payload length: the field both read, or none
  have hn : n₁ = n₂ := by
    cases hcl : f.carriesLength with
    | true =>
      obtain ⟨w₁, t₁, hr₁, rfl⟩ := (payloadLength_of_checkLengths h₁).1 hcl
      obtain ⟨w₂, t₂, hr₂, rfl⟩ := (payloadLength_of_checkLengths h₂).1 hcl
      obtain ⟨t, ht⟩ := Word.read16_of_prefix hp hr₁
      rw [hr₂, Option.some.injEq, Prod.mk.injEq] at ht
      rw [ht.1]
    | false =>
      rw [(payloadLength_of_checkLengths h₁).2 hcl, (payloadLength_of_checkLengths h₂).2 hcl]
  rw [hn]

/-- **Truncation and padding are detected.** Every datagram that begins a decodable datagram or
continues it, and is not that datagram, is refused as invalid: before its checksum is looked
at, and whatever its bytes. -/
theorem parse_eq_invalid_of_prefix {b b' : Bytes} {seg : Segment} (hb : parse b = .ok seg)
    (hpre : b' <+: b ∨ b <+: b') (hne : b' ≠ b) : parse b' = .error .invalid := by
  obtain ⟨c, rest, pl, rfl, -, hlen, -⟩ := parse_eq_ok hb
  have hvalid := (valid_of_parse_eq_ok hb).2
  have hver := (valid_of_parse_eq_ok hb).1
  by_cases hshort : b'.length < commonHeaderLength
  · exact parse_of_length_lt hshort
  -- a datagram as long as the common part shares it, since the two begin one another
  have hcommon : b' = c.bytes ++ b'.drop commonHeaderLength := by
    have htake : b'.take commonHeaderLength = c.bytes := by
      rcases hpre with ⟨t, ht⟩ | ⟨t, ht⟩
      · have hcut : (b' ++ t).take commonHeaderLength = b'.take commonHeaderLength :=
          List.take_append_of_le_length (by omega)
        rw [← hcut, ht, List.take_append_of_le_length (by simp)]
        exact List.take_of_length_le (by simp)
      · rw [← ht, List.append_assoc, List.take_append_of_le_length (by simp)]
        exact List.take_of_length_le (by simp)
    rw [← htake, List.take_append_drop]
  generalize b'.drop commonHeaderLength = rest' at hcommon
  have hrest : rest' <+: rest ∨ rest <+: rest' := by
    rcases hpre with ⟨t, ht⟩ | ⟨t, ht⟩
    · refine .inl ⟨t, ?_⟩
      rw [hcommon, List.append_assoc] at ht
      exact List.append_cancel_left ht
    · refine .inr ⟨t, ?_⟩
      rw [hcommon, List.append_assoc] at ht
      exact List.append_cancel_left ht
  rw [hcommon, parse_bytes_append]
  simp only [hver, hvalid, ne_eq, not_true_eq_false, ↓reduceIte, Bool.not_true, Bool.false_eq_true]
  cases hlen' : checkLengths c.flags c.headerLength (c.bytes ++ rest').length rest' with
  | error err =>
    rw [checkLengths_error hlen']
    rfl
  | ok n =>
    -- both pass the length checks, so both have one length and the datagrams are equal
    exfalso
    have htot : (c.bytes ++ rest).length = (c.bytes ++ rest').length := by
      rcases hrest with hp | hp
      · exact (checkLengths_total_eq hlen' hlen hp).symm
      · exact checkLengths_total_eq hlen hlen' hp
    rw [← hcommon] at htot
    rcases hpre with hp | hp
    · exact hne (hp.eq_of_length htot.symm)
    · exact hne (hp.eq_of_length htot).symm

end Segment

namespace Header

/-- **Framing of the builders' segments.** Serializing a header a builder returned, with a
payload of the length it announces, writes a segment `b` after the buffer; every strict prefix
of `b`, the empty one included, and every datagram that continues past the end of `b` decode to
`ParseError.invalid`. -/
theorem Built.framing_checked {h : Header} (hb : h.Built) {payload : Bytes}
    (hp : payload.length = h.payloadLength.toNat) (out : Bytes) :
    ∃ b, (h.serialize payload out).1 = .ok b.length ∧ (h.serialize payload out).2.2 = out ++ b ∧
      (∀ b', b' <+: b → b' ≠ b → Segment.parse b' = .error .invalid) ∧
      (∀ e, e ≠ [] → Segment.parse (b ++ e) = .error .invalid) := by
  obtain ⟨b, hser, -, hparse, -⟩ := hb.serialize_decodes hp out
  refine ⟨b, by rw [hser], by rw [hser], fun b' hpre hne ↦ ?_, fun e he ↦ ?_⟩
  · exact Segment.parse_eq_invalid_of_prefix hparse (.inl hpre) hne
  · refine Segment.parse_eq_invalid_of_prefix hparse (.inr (List.prefix_append b e)) ?_
    simpa using he

/-- A data segment of three bytes, serialized into an empty buffer: its prefixes and
extensions are refused. -/
theorem data_framing_checked : (buildData 1 1 3).Built ∧
    [97, 98, 99].length = (buildData 1 1 3).payloadLength.toNat ∧
    ∃ b, ((buildData 1 1 3).serialize [97, 98, 99] []).1 = .ok b.length ∧
      ((buildData 1 1 3).serialize [97, 98, 99] []).2.2 = [] ++ b ∧
      (∀ b', b' <+: b → b' ≠ b → Segment.parse b' = .error .invalid) ∧
      (∀ e, e ≠ [] → Segment.parse (b ++ e) = .error .invalid) :=
  ⟨.data 1 1 3, rfl, Built.framing_checked (.data 1 1 3) rfl []⟩

end Header

end ReliableDatagram
