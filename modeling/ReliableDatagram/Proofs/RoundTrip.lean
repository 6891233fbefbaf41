import ReliableDatagram.Proofs.Codec
import ReliableDatagram.Proofs.Checksum
/-!
# Round trips between headers and datagrams

Encoding writes a header's common part with the header length filled in, then its kind-specific
bytes and the payload, and puts into the checksum field the checksum of that segment taken with
the field zero (`Header.stamp`, `Header.sealSum`). Decoding reads all of it back. Both round
trips hold:

* every header a builder returns (`Header.Built`), with a payload of the length it announces,
  serializes after whatever the buffer holds, and the segment decodes to that header stamped
  with its length and checksum and is handed to the handler for its kind
  (`Header.Built.serialize_decodes`). What a header needs for this is collected in
  `Header.Sendable`, which the builders' headers have;
* every datagram that decodes is exactly what serializing its header and payload writes
  (`Segment.serialize_parsed`), up to its checksum field: the one's-complement sum has two
  zeros, decoding accepts both, and encoding writes the one with all bits clear.

Decoding is taken apart once, in `Segment.parse_eq_ok` and `Segment.readHeader_inv`: a decoded
datagram is a common part, kind-specific bytes whose description announces the header's kind,
and the payload. The checksum field is recovered by `Checksum.ofRegion_field_zero`, which needs
the rest of the segment not to sum to zero; the version byte sees to that.
-/

namespace ReliableDatagram

/-! ### Fields read and written back -/

namespace Word

/-- Writing the word read from two bytes gives the two bytes back. -/
@[simp] theorem ofUInt16_toUInt16 (hi lo : UInt8) : ofUInt16 (toUInt16 hi lo) = [hi, lo] := by
  have := hi.toNat_lt
  have := lo.toNat_lt
  simp only [ofUInt16, toUInt16, List.cons.injEq, and_true]
  constructor <;>
  · apply UInt8.toNat.inj
    simp [UInt16.toNat_add, UInt16.toNat_mul, UInt16.toNat_shiftRight,
      Nat.shiftRight_eq_div_pow] <;>
    omega

/-- Writing the word read from four bytes gives the four bytes back. -/
@[simp] theorem ofUInt32_toUInt32 (b0 b1 b2 b3 : UInt8) :
    ofUInt32 (toUInt32 b0 b1 b2 b3) = [b0, b1, b2, b3] := by
  have := b0.toNat_lt
  have := b1.toNat_lt
  have := b2.toNat_lt
  have := b3.toNat_lt
  simp only [ofUInt32, toUInt32, List.cons.injEq, and_true]
  refine ⟨?_, ?_, ?_, ?_⟩ <;> apply UInt8.toNat.inj <;>
    simp [UInt32.toNat_add, UInt32.toNat_mul, UInt32.toNat_shiftRight,
      Nat.shiftRight_eq_div_pow] <;>
    omega

/-- The number four bytes spell, most significant first. -/
theorem toNat_toUInt32 (b0 b1 b2 b3 : UInt8) :
    (toUInt32 b0 b1 b2 b3).toNat =
      ((b0.toNat * 256 + b1.toNat) * 256 + b2.toNat) * 256 + b3.toNat := by
  have := b0.toNat_lt
  have := b1.toNat_lt
  have := b2.toNat_lt
  have := b3.toNat_lt
  simp only [toUInt32, UInt32.toNat_add, UInt32.toNat_mul, UInt8.toNat_toUInt32]
  simp only [UInt32.reduceToNat, Nat.reducePow]
  omega

/-- The four bytes of a word are all ones exactly for the all-ones word. -/
theorem ofUInt32_eq_ones_iff (w : UInt32) :
    ofUInt32 w = [255, 255, 255, 255] ↔ w = 0xFFFFFFFF := by
  constructor
  · intro h
    -- reading the word back from its bytes gives it again
    have hw : read32 (ofUInt32 w ++ []) = read32 ([255, 255, 255, 255] ++ []) := by rw [h]
    rw [read32_ofUInt32] at hw
    exact (Prod.mk.inj (Option.some.inj (hw.trans rfl))).1
  · rintro rfl
    rfl

/-- A word read from the front of a byte string was written there. -/
theorem eq_of_read16 {bytes rest : Bytes} {w : UInt16} (h : read16 bytes = some (w, rest)) :
    bytes = ofUInt16 w ++ rest := by
  match bytes, h with
  | hi :: lo :: rest', h =>
    simp only [read16, Option.some.injEq, Prod.mk.injEq] at h
    obtain ⟨rfl, rfl⟩ := h
    simp

/-- Words read from a byte string write back to it. -/
theorem ofWords_of_readWords {bytes : Bytes} {ws : List UInt16} (h : readWords bytes = some ws) :
    ofWords ws = bytes := by
  induction bytes using readWords.induct generalizing ws with
  | case1 =>
    simp only [readWords, Option.some.injEq] at h
    subst h
    rfl
  | case2 b => simp [readWords] at h
  | case3 hi lo rest ih =>
    simp only [readWords, Option.map_eq_some_iff] at h
    obtain ⟨ws', hws', rfl⟩ := h
    simp [ofWords, ← ih hws']

@[simp] theorem length_ofWords (ws : List UInt16) : (ofWords ws).length = 2 * ws.length := by
  induction ws with
  | nil => rfl
  | cons w ws ih => simp [ofWords] at ih ⊢; omega

end Word

namespace Config

/-- Ten configuration bytes read as a configuration are that configuration's bytes. -/
theorem bytes_of_read {bytes : Bytes} {config : Config} (h : read bytes = some config)
    (hl : bytes.length = 10) : config.bytes = bytes := by
  match bytes, h, hl with
  | [o0, o1, r0, r1, n0, n1, m0, m1, retries, window], h, _ =>
    simp only [read, Option.some.injEq] at h
    subst h
    simp [Config.bytes]

end Config

namespace Common

/-- The eight bytes of the common part before the checksum field. -/
def front (c : Common) : Bytes :=
  [c.flags.bits, c.version, c.reserved, c.headerLength] ++ Word.ofUInt16 c.seq ++
    Word.ofUInt16 c.ack

theorem bytes_eq_front (c : Common) : c.bytes = c.front ++ Word.ofUInt32 c.checksum := rfl

@[simp] theorem length_front (c : Common) : c.front.length = 8 := rfl

/-- The front of a common part of this protocol's version does not sum to zero: its first word
holds the version byte. -/
theorem wordSum_front_pos {c : Common} (hv : c.version = protocolVersion) :
    0 < Checksum.wordSum c.front := by
  simp only [front, hv, protocolVersion, List.cons_append, List.nil_append, Word.ofUInt16,
    Checksum.wordSum, Word.toNat_toUInt32, UInt8.reduceToNat]
  omega

end Common

namespace Header

/-- The numbers an extended acknowledgment lists; none for the other kinds. -/
def acks : Header → List UInt16
  | eack _ _ acks => acks
  | _ => []

/-- The length of a header's bytes: the common part and the kind-specific bytes. -/
def size (h : Header) : Nat :=
  commonHeaderLength + h.extension.length

/-- The header as encoding writes it: its header length filled in and its checksum field set to
`sum`. -/
def stamp (h : Header) (sum : UInt32) : Header :=
  h.setCommon { h.common with headerLength := h.size.toUInt8, checksum := sum }

/-- The checksum encoding computes for a header and payload: over the segment written with a
zero checksum field. -/
def sealSum (h : Header) (payload : Bytes) : UInt32 :=
  Checksum.ofRegion h.size (h.common.flags.has .chk) ((h.stamp 0).layout ++ payload)
    payload.length

/-! ### Encoding a sendable header -/

@[simp] theorem layout_setCommon (h : Header) (c : Common) :
    (h.setCommon c).layout = c.bytes ++ h.extension := by
  simp [layout]

@[simp] theorem kind_stamp (h : Header) (sum : UInt32) : (h.stamp sum).kind = h.kind := by
  simp [stamp]

/-- Encoding succeeds once the payload checks pass and the header fits in 255 bytes; it returns
the header stamped with the checksum of the segment. -/
theorem encode_eq_of_fits {h : Header} {payload : Bytes} (hc : h.checkPayload payload = .ok ())
    (hl : h.size ≤ 255) :
    h.encode payload =
      .ok (h.stamp (h.sealSum payload), (h.stamp (h.sealSum payload)).layout ++ payload) := by
  have hn : ¬ commonHeaderLength + h.extension.length > 255 := by
    unfold size at hl
    omega
  simp only [encode, hc, hn, bind, Except.bind, ↓reduceIte, pure, Except.pure]
  rfl

/-- What an encoding that round-trips needs of a header: a description that is valid and
announces the header's kind, this protocol's version, a length that fits in a byte, and CHK
whenever payload is announced. -/
structure Sendable (h : Header) : Prop where
  formed : h.Formed
  valid : h.common.flags.valid = true
  version : h.common.version = protocolVersion
  fits : h.size ≤ 255
  chk : 0 < h.payloadLength.toNat → h.common.flags.has .chk = true

/-- A header whose description announces its kind carries a payload length field exactly when
it is an acknowledgment; the others announce no payload. -/
theorem payloadLength_eq_zero {h : Header} (hf : h.Formed)
    (hc : h.common.flags.carriesLength = false) : h.payloadLength = 0 := by
  unfold Formed at hf
  cases h with
  | syn c₀ config => rfl
  | rst c₀ => rfl
  | nul c₀ => rfl
  | ack c₀ n =>
    have hk := Flags.kind_eq_ack.1 hf
    simp only [common] at hk hc
    simp [Flags.carriesLength, hk] at hc
  | eack c₀ n acks =>
    have hk := Flags.kind_eq_eack.1 hf
    simp only [common] at hk hc
    simp [Flags.carriesLength, hk] at hc

/-- The payload checks pass for a payload of the announced length. -/
theorem checkPayload_eq_ok {h : Header} (hf : h.Formed) {payload : Bytes}
    (hp : payload.length = h.payloadLength.toNat) : h.checkPayload payload = .ok () := by
  have hlt := h.payloadLength.toNat_lt
  have hnot : ¬ (!h.common.flags.carriesLength && decide (payload.length > 0)) = true := by
    cases hcl : h.common.flags.carriesLength
    · rw [payloadLength_eq_zero hf hcl] at hp
      simp [hp]
    · simp
  have hlen : h.payloadLength = payload.length.toUInt16 := by
    rw [hp]
    exact UInt16.ofNat_toNat.symm
  simp [checkPayload, hnot, hlen]
  omega

@[simp] theorem toNat_toUInt8_size {h : Header} (hl : h.size ≤ 255) :
    h.size.toUInt8.toNat = h.size := by
  simp only [Nat.toUInt8, UInt8.toNat_ofNat', Nat.reducePow]
  omega

/-- The length checks of decoding pass on an encoded segment and announce its payload. -/
theorem checkLengths_layout {h : Header} (hs : h.Sendable) {payload : Bytes}
    (hp : payload.length = h.payloadLength.toNat) {c : Common} (hc : c.flags = h.common.flags)
    (hL : c.headerLength.toNat = h.size) :
    Segment.checkLengths c.flags c.headerLength (h.size + payload.length) (h.extension ++ payload) =
      .ok payload.length := by
  have hf := hs.formed
  unfold Formed at hf
  rw [← hc] at hf
  unfold Segment.checkLengths
  cases h with
  | syn c₀ config =>
    have hs' : c.flags.has .syn = true := Flags.kind_eq_syn.1 hf
    simp only [payloadLength, UInt16.toNat_zero, List.length_eq_zero_iff] at hp
    simp only [size, extension, Config.bytes, List.length_append, Word.length_ofUInt16] at hL ⊢
    simp [Flags.carriesLength, Segment.fixedLength, hs', hL, hp, commonHeaderLength]
  | rst c₀ =>
    obtain ⟨hs', hr⟩ := Flags.kind_eq_rst.1 hf
    simp only [payloadLength, UInt16.toNat_zero, List.length_eq_zero_iff] at hp
    simp only [size, extension, List.length_nil] at hL ⊢
    simp [Flags.carriesLength, Segment.fixedLength, hs', hr, hL, hp, commonHeaderLength]
  | nul c₀ =>
    obtain ⟨hs', hr, hn⟩ := Flags.kind_eq_nul.1 hf
    simp only [payloadLength, UInt16.toNat_zero, List.length_eq_zero_iff] at hp
    simp only [size, extension, List.length_nil] at hL ⊢
    simp [Flags.carriesLength, Segment.fixedLength, hs', hr, hn, hL, hp, commonHeaderLength]
  | ack c₀ n =>
    obtain ⟨hs', hr, hn, -⟩ := Flags.kind_eq_ack.1 hf
    have hchk := hs.chk
    simp only [payloadLength, common] at hp hchk hc
    rw [← hc] at hchk
    simp only [size, extension, Word.length_ofUInt16] at hL ⊢
    simp [Flags.carriesLength, hs', hr, hn, hL, hp, commonHeaderLength, ackHeaderLength]
    omega
  | eack c₀ n acks =>
    obtain ⟨hs', hr, hn, -⟩ := Flags.kind_eq_eack.1 hf
    have hchk := hs.chk
    simp only [payloadLength, common] at hp hchk hc
    rw [← hc] at hchk
    simp only [size, extension, List.length_append, Word.length_ofUInt16] at hL ⊢
    simp [Flags.carriesLength, hs', hr, hn, hL, hp, commonHeaderLength, ackHeaderLength]
    exact ⟨by omega, hchk⟩

/-- A stamped segment: the eight front bytes, the checksum field, then the kind-specific bytes
and the payload. -/
theorem layout_stamp_append (h : Header) (sum : UInt32) (payload : Bytes) :
    (h.stamp sum).layout ++ payload =
      (h.stamp 0).common.front ++ Word.ofUInt32 sum ++ (h.extension ++ payload) := by
  simp only [stamp, layout_setCommon, common_setCommon, Common.bytes_eq_front, List.append_assoc]
  rfl

/-- The checksum encoding computes, over the segment with a zero checksum field. -/
theorem sealSum_eq (h : Header) (payload : Bytes) :
    h.sealSum payload = Checksum.ofRegion h.size (h.common.flags.has .chk)
      ((h.stamp 0).common.front ++ Word.ofUInt32 0 ++ (h.extension ++ payload)) payload.length := by
  rw [sealSum, layout_stamp_append]

/-- A sendable header's bytes under any common part with its description and version, the right
header length and a verifying checksum decode to the header under that common part. -/
theorem parse_setCommon {h : Header} (hs : h.Sendable) {payload : Bytes}
    (hp : payload.length = h.payloadLength.toNat) {c : Common} (hc : c.flags = h.common.flags)
    (hv : c.version = h.common.version) (hL : c.headerLength.toNat = h.size)
    (hres : Checksum.ofRegion h.size (c.flags.has .chk) (c.bytes ++ (h.extension ++ payload))
      payload.length = 0) :
    Segment.parse (c.bytes ++ (h.extension ++ payload)) = .ok ⟨h.setCommon c, payload⟩ := by
  have hlen : (c.bytes ++ (h.extension ++ payload)).length = h.size + payload.length := by
    simp [size, Nat.add_assoc]
  rw [Segment.parse_bytes_append]
  simp only [hv, hs.version, hc, hs.valid, ne_eq, not_true_eq_false, ↓reduceIte, Bool.not_true,
    Bool.false_eq_true]
  rw [hlen, ← hc, checkLengths_layout hs hp hc hL]
  simp only [bind, Except.bind, hL, hres, not_true_eq_false, ↓reduceIte]
  rw [readHeader_layout hs.formed hc hL (fun _ ↦ hp) payload]
  simp only [pure, Except.pure, Except.ok.injEq, Segment.mk.injEq, true_and]
  rw [size, ← List.append_assoc, List.drop_left' (by simp)]

/-- A segment encoded from a sendable header and a payload of the announced length decodes to
the stamped header and the payload. -/
theorem parse_stamp {h : Header} (hs : h.Sendable) {payload : Bytes}
    (hp : payload.length = h.payloadLength.toNat) :
    Segment.parse ((h.stamp (h.sealSum payload)).layout ++ payload) =
      .ok ⟨h.stamp (h.sealSum payload), payload⟩ := by
  have h12 : 12 ≤ h.size := by simp [size, commonHeaderLength]
  -- the checksum field holds the complement of the sum taken with the field zero
  have hres : Checksum.ofRegion h.size (h.common.flags.has .chk)
      ((h.stamp (h.sealSum payload)).layout ++ payload) payload.length = 0 := by
    rw [layout_stamp_append, sealSum_eq]
    exact Checksum.ofRegion_sealed (Common.length_front _) _ h12 _ _
  rw [stamp, layout_setCommon, List.append_assoc] at hres ⊢
  exact parse_setCommon hs hp rfl rfl (toNat_toUInt8_size hs.fits) hres

/-! ### The headers the builders return -/

/-- The headers the builders return, one constructor per builder. -/
inductive Built : Header → Prop
  | syn (config : Config) (seq : UInt16) (ack : Option UInt16) : Built (buildSyn config seq ack)
  | rst (code : UInt8) (seq : UInt16) (ack : Option UInt16) : Built (buildRst code seq ack)
  | nul (seq ack : UInt16) : Built (buildNul seq ack)
  | ack (seq ack : UInt16) : Built (buildAck seq ack)
  | data (seq ack payloadLength : UInt16) : Built (buildData seq ack payloadLength)
  | eack (seq ack : UInt16) (acks : List UInt16) : Built (buildEack seq ack acks)
  | eackData (seq ack : UInt16) (acks : List UInt16) (payloadLength : UInt16) :
      Built (buildEackData seq ack acks payloadLength)

theorem sendable_buildData (seq ack payloadLength : UInt16) :
    (buildData seq ack payloadLength).Sendable where
  formed := formed_buildData seq ack payloadLength
  valid := by
    simp only [buildData, fresh, common, Option.isSome_some]
    cases decide (payloadLength > 0) <;> decide
  version := rfl
  fits := by simp [size, buildData, extension, commonHeaderLength]
  chk := by
    intro hpos
    simp only [buildData, Header.payloadLength] at hpos
    have hb : decide (payloadLength > 0) = true := by
      simp [UInt16.lt_iff_toNat_lt]
      omega
    simp only [buildData, fresh, common, Option.isSome_some, hb]
    decide

theorem sendable_buildEackData (seq ack : UInt16) (acks : List UInt16) (payloadLength : UInt16) :
    (buildEackData seq ack acks payloadLength).Sendable where
  formed := formed_buildEackData seq ack acks payloadLength
  valid := by
    simp only [buildEackData, fresh, common, Option.isSome_some]
    cases decide (payloadLength > 0) <;> decide
  version := rfl
  fits := by
    simp [size, buildEackData, extension, commonHeaderLength, Kind.headerLength, maxExtendedAcks]
    omega
  chk := by
    intro hpos
    simp only [buildEackData, Header.payloadLength] at hpos
    have hb : decide (payloadLength > 0) = true := by
      simp [UInt16.lt_iff_toNat_lt]
      omega
    simp only [buildEackData, fresh, common, Option.isSome_some, hb]
    decide

/-- Every header a builder returns round-trips. -/
theorem Built.sendable {h : Header} (hb : h.Built) : h.Sendable := by
  cases hb with
  | syn config seq ack =>
    refine ⟨formed_buildSyn config seq ack, ?_, rfl, by simp [size, buildSyn, extension,
      Config.bytes, commonHeaderLength], by simp [buildSyn, payloadLength]⟩
    simp only [buildSyn, fresh, common]
    cases ack.isSome <;> decide
  | rst code seq ack =>
    refine ⟨formed_buildRst code seq ack, ?_, rfl, by simp [size, buildRst, extension,
      commonHeaderLength], by simp [buildRst, payloadLength]⟩
    simp only [buildRst, fresh, common]
    cases ack.isSome <;> decide
  | nul seq ack =>
    refine ⟨formed_buildNul seq ack, ?_, rfl, by simp [size, buildNul, extension,
      commonHeaderLength], by simp [buildNul, payloadLength]⟩
    simp only [buildNul, fresh, common, Option.isSome_some]
    decide
  | ack seq ack => exact sendable_buildData seq ack 0
  | data seq ack payloadLength => exact sendable_buildData seq ack payloadLength
  | eack seq ack acks => exact sendable_buildEackData seq ack acks 0
  | eackData seq ack acks payloadLength => exact sendable_buildEackData seq ack acks payloadLength

/-- The header length a builder's header is written with is the one its kind and number of
extended acknowledgments give. -/
theorem Built.size_eq {h : Header} (hb : h.Built) :
    h.size = (h.kind.headerLength h.acks.length).1 := by
  cases hb <;> simp [size, buildSyn, buildRst, buildNul, buildAck, buildData, buildEack,
    buildEackData, extension, acks, kind, Kind.headerLength, Config.bytes, commonHeaderLength,
    ackHeaderLength, maxExtendedAcks] <;> omega

/-- **Decoding undoes encoding over the builders' headers.** Serializing a header a builder
returned, with a payload of the length it announces, succeeds: it appends the segment to the
buffer and reports its length, which the header's kind and number of extended acknowledgments
fix. The segment decodes to the header with its length and checksum filled in, and to the
payload, and is handed to the handler for the header's kind. -/
theorem Built.serialize_decodes {h : Header} (hb : h.Built) {payload : Bytes}
    (hp : payload.length = h.payloadLength.toNat) (out : Bytes) :
    ∃ segment, h.serialize payload out =
        (.ok segment.length, h.stamp (h.sealSum payload), out ++ segment) ∧
      segment.length = (h.kind.headerLength h.acks.length).1 + payload.length ∧
      Segment.parse segment = .ok ⟨h.stamp (h.sealSum payload), payload⟩ ∧
      Segment.deserialize segment =
        (⟨h.stamp (h.sealSum payload), payload⟩ : Segment).dispatch := by
  have hs := hb.sendable
  have hparse := parse_stamp hs hp
  refine ⟨(h.stamp (h.sealSum payload)).layout ++ payload, ?_, ?_, hparse, ?_⟩
  · rw [serialize, encode_eq_of_fits (checkPayload_eq_ok hs.formed hp) hs.fits]
  · rw [← hb.size_eq]
    simp [stamp, size, Nat.add_assoc]
  · rw [Segment.deserialize, hparse]

/-- An extended acknowledgment listing three numbers and carrying four bytes, serialized after
one byte already in the buffer. -/
theorem eackData_serialize_decodes : (buildEackData 42 17 [19, 23, 24] 4).Built ∧
    [100, 97, 116, 97].length = (buildEackData 42 17 [19, 23, 24] 4).payloadLength.toNat ∧
    ∃ segment, (buildEackData 42 17 [19, 23, 24] 4).serialize [100, 97, 116, 97] [238] =
        (.ok segment.length, (buildEackData 42 17 [19, 23, 24] 4).stamp
          ((buildEackData 42 17 [19, 23, 24] 4).sealSum [100, 97, 116, 97]), [238] ++ segment) ∧
      segment.length = (Kind.eack.headerLength 3).1 + 4 ∧
      Segment.parse segment = .ok ⟨(buildEackData 42 17 [19, 23, 24] 4).stamp
          ((buildEackData 42 17 [19, 23, 24] 4).sealSum [100, 97, 116, 97]),
          [100, 97, 116, 97]⟩ ∧
      Segment.deserialize segment = (⟨(buildEackData 42 17 [19, 23, 24] 4).stamp
          ((buildEackData 42 17 [19, 23, 24] 4).sealSum [100, 97, 116, 97]),
          [100, 97, 116, 97]⟩ : Segment).dispatch :=
  ⟨.eackData 42 17 [19, 23, 24] 4, rfl,
    Built.serialize_decodes (.eackData 42 17 [19, 23, 24] 4) rfl [238]⟩

end Header

namespace Segment

/-! ### Decoded datagrams are what encoding writes -/

/-- What a successful decoding consists of: a common part read from the first twelve bytes that
passes the version, length and checksum checks, then the header read from what follows and the
payload after the header length. -/
theorem parse_eq_ok {b : Bytes} {seg : Segment} (hp : parse b = .ok seg) :
    ∃ c rest pl, b = c.bytes ++ rest ∧ c.version = protocolVersion ∧
      checkLengths c.flags c.headerLength b.length rest = .ok pl ∧
      Checksum.ofRegion c.headerLength.toNat (c.flags.has .chk) b pl = 0 ∧
      readHeader c pl b rest = .ok seg.header ∧ seg.payload = b.drop c.headerLength.toNat := by
  unfold parse at hp
  split at hp
  · rename_i d v r len s0 s1 a0 a1 c0 c1 c2 c3 rest
    dsimp only at hp
    split at hp
    · cases hp
    rename_i hv
    split at hp
    · cases hp
    obtain ⟨pl, hcl, hp⟩ := exists_of_bind_eq_ok hp
    split at hp
    · cases hp
    rename_i hres
    obtain ⟨header, hrh, hp⟩ := exists_of_bind_eq_ok hp
    cases hp
    refine ⟨⟨⟨d⟩, v, r, len, Word.toUInt16 s0 s1, Word.toUInt16 a0 a1,
      Word.toUInt32 c0 c1 c2 c3⟩, rest, pl, ?_, Decidable.of_not_not hv, hcl,
      Decidable.of_not_not hres, hrh, rfl⟩
    simp [Common.bytes]
  · cases hp

/-- Past the common part and a payload length field, a datagram splits at the header length into
the extended acknowledgments and the payload. -/
theorem split_after_length (c : Common) (n : UInt16) (tail : Bytes) {k : Nat} (hk : 14 ≤ k) :
    ((c.bytes ++ (Word.ofUInt16 n ++ tail)).take k).drop ackHeaderLength = tail.take (k - 14) ∧
      (c.bytes ++ (Word.ofUInt16 n ++ tail)).drop k = tail.drop (k - 14) := by
  have hpre : (c.bytes ++ Word.ofUInt16 n).length = 14 := rfl
  rw [← List.append_assoc]
  refine ⟨?_, ?_⟩
  · rw [List.take_append, List.take_of_length_le (by omega), hpre]
    exact List.drop_left' hpre
  · rw [List.drop_append, List.drop_eq_nil_of_le (by omega), hpre, List.nil_append]

/-- Without a payload length field the lengths pass exactly when the header length is the kind's
fixed length and the datagram is the header alone; the payload is then empty. -/
theorem checkLengths_eq_ok_of_fixed {flags : Flags} {len : UInt8} {total : Nat} {rest : Bytes}
    {pl : Nat} (hcl : flags.carriesLength = false) (h : checkLengths flags len total rest = .ok pl) :
    len.toNat = fixedLength flags ∧ total = len.toNat ∧ pl = 0 := by
  unfold checkLengths at h
  simp only [hcl, Bool.false_eq_true, ↓reduceIte] at h
  split at h
  · cases h
  · rename_i hlen
    cases h
    simp only [Bool.or_eq_true, decide_eq_true_eq, not_or, Decidable.not_not] at hlen
    exact ⟨hlen.1, hlen.2, rfl⟩

/-- With a payload length field the lengths pass when the field read after the common part is
the datagram's length less the header length, the header length covers the field, and a
payload comes with its checksum flag; the payload length is the field. -/
theorem checkLengths_eq_ok_of_carries {flags : Flags} {len : UInt8} {total : Nat} {rest : Bytes}
    {pl : Nat} (hcl : flags.carriesLength = true) (h : checkLengths flags len total rest = .ok pl) :
    ∃ n tail, Word.read16 rest = some (n, tail) ∧ ackHeaderLength ≤ len.toNat ∧
      len.toNat + n.toNat = total ∧ (0 < n.toNat → flags.has .chk = true) ∧ pl = n.toNat := by
  unfold checkLengths at h
  simp only [hcl, ↓reduceIte] at h
  split at h
  · cases h
  rename_i n tail hread
  split at h
  · cases h
  rename_i hcheck
  cases h
  simp only [Bool.or_eq_true, decide_eq_true_eq, Bool.and_eq_true, Bool.not_eq_eq_eq_not,
    Bool.not_true, not_or, not_and, Bool.not_eq_false] at hcheck
  obtain ⟨⟨h14, hsum⟩, hchk⟩ := hcheck
  exact ⟨n, tail, hread, Nat.le_of_not_lt h14, Decidable.of_not_not hsum, hchk, rfl⟩

/-- A header that is its common part alone, an RST or a NUL, takes the twelve bytes of that part
and nothing after it. -/
theorem bare_lengths {c : Common} {rest : Bytes} {pl : Nat} (hs : c.flags.has .syn = false)
    (hcl : c.flags.carriesLength = false)
    (hl : checkLengths c.flags c.headerLength (c.bytes ++ rest).length rest = .ok pl) :
    rest = [] ∧ pl = 0 ∧ c.headerLength.toNat = 12 := by
  obtain ⟨hlen, htot, rfl⟩ := checkLengths_eq_ok_of_fixed hcl hl
  simp only [fixedLength, hs, Bool.false_eq_true, ↓reduceIte] at hlen
  have htotal : (c.bytes ++ rest).length = 12 + rest.length := by simp [commonHeaderLength]
  exact ⟨List.eq_nil_of_length_eq_zero (by omega), rfl, hlen⟩

/-- What reading a header gives, by the kind its description announces: a SYN's configuration
read after the common part, an RST or a NUL with nothing more, and an acknowledgment whose
extended acknowledgments fill the region between its payload length field and its header
length, a region that is empty for a plain one. -/
theorem readHeader_eq_ok {c : Common} {pl : Nat} {bytes rest : Bytes} {header : Header}
    (hr : readHeader c pl bytes rest = .ok header) :
    (c.flags.kind = .syn ∧ ∃ config, Config.read rest = some config ∧ header = .syn c config) ∨
    (c.flags.kind = .rst ∧ header = .rst c) ∨
    (c.flags.kind = .nul ∧ header = .nul c) ∨
    (c.flags.kind = .eack ∧ ∃ acks, Word.readWords
        ((bytes.take c.headerLength.toNat).drop ackHeaderLength) = some acks ∧
      header = .eack c pl.toUInt16 acks) ∨
    (c.flags.kind = .ack ∧ (bytes.take c.headerLength.toNat).drop ackHeaderLength = [] ∧
      header = .ack c pl.toUInt16) := by
  unfold readHeader at hr
  cases hk : c.flags.kind with
  | syn =>
    simp only [Flags.kind_eq_syn.1 hk, ↓reduceIte] at hr
    split at hr
    · rename_i config hread
      cases hr
      exact .inl ⟨rfl, config, hread, rfl⟩
    · cases hr
  | rst =>
    obtain ⟨hs, hrs⟩ := Flags.kind_eq_rst.1 hk
    simp only [hs, hrs, Bool.false_eq_true, ↓reduceIte] at hr
    cases hr
    exact .inr (.inl ⟨rfl, rfl⟩)
  | nul =>
    obtain ⟨hs, hrs, hn⟩ := Flags.kind_eq_nul.1 hk
    simp only [hs, hrs, hn, Bool.false_eq_true, ↓reduceIte] at hr
    cases hr
    exact .inr (.inr (.inl ⟨rfl, rfl⟩))
  | ack =>
    obtain ⟨hs, hrs, hn, he⟩ := Flags.kind_eq_ack.1 hk
    simp only [hs, hrs, hn, he, Bool.false_eq_true, ↓reduceIte] at hr
    split at hr
    · rename_i hempty
      cases hr
      exact .inr (.inr (.inr (.inr ⟨rfl, List.isEmpty_iff.1 hempty, rfl⟩)))
    · cases hr
  | eack =>
    obtain ⟨hs, hrs, hn, he⟩ := Flags.kind_eq_eack.1 hk
    simp only [hs, hrs, hn, he, Bool.false_eq_true, ↓reduceIte] at hr
    split at hr
    · rename_i acks hacks
      cases hr
      exact .inr (.inr (.inr (.inl ⟨rfl, acks, hacks, rfl⟩)))
    · cases hr

/-- A header that carries a payload length and passed the length checks: after its common part
come that length and a tail, which the header length splits into the extended acknowledgments
and the payload. -/
theorem carried_lengths {c : Common} {rest : Bytes} {pl : Nat}
    (hcl : c.flags.carriesLength = true)
    (hl : checkLengths c.flags c.headerLength (c.bytes ++ rest).length rest = .ok pl) :
    ∃ tail, rest = Word.ofUInt16 pl.toUInt16 ++ tail ∧ pl.toUInt16.toNat = pl ∧
      14 ≤ c.headerLength.toNat ∧ c.headerLength.toNat + pl = 14 + tail.length ∧
      ((c.bytes ++ rest).take c.headerLength.toNat).drop ackHeaderLength =
        tail.take (c.headerLength.toNat - 14) ∧
      (c.bytes ++ rest).drop c.headerLength.toNat = tail.drop (c.headerLength.toNat - 14) := by
  obtain ⟨n, tail, hread, h14, hsum, -, rfl⟩ := checkLengths_eq_ok_of_carries hcl hl
  obtain rfl := Word.eq_of_read16 hread
  simp only [ackHeaderLength] at h14
  have htail : (c.bytes ++ (Word.ofUInt16 n ++ tail)).length = 14 + tail.length := by
    simp [commonHeaderLength]
    omega
  have hn16 : n.toNat.toUInt16 = n := UInt16.ofNat_toNat
  rw [htail] at hsum
  rw [hn16]
  exact ⟨tail, rfl, rfl, h14, hsum, split_after_length c n tail h14⟩

/-- What a header read after a common part that passed the length checks consists of: that
common part, a description announcing the header's kind, and kind-specific bytes that, followed
by the payload, are exactly what came after the common part. -/
theorem readHeader_inv {c : Common} {rest : Bytes} {pl : Nat} {header : Header}
    (hl : checkLengths c.flags c.headerLength (c.bytes ++ rest).length rest = .ok pl)
    (hr : readHeader c pl (c.bytes ++ rest) rest = .ok header) :
    header.common = c ∧ header.Formed ∧ c.headerLength.toNat = header.size ∧
      header.extension ++ (c.bytes ++ rest).drop c.headerLength.toNat = rest ∧
      ((c.bytes ++ rest).drop c.headerLength.toNat).length = pl ∧
      header.payloadLength.toNat = pl := by
  have htotal : (c.bytes ++ rest).length = 12 + rest.length := by simp [commonHeaderLength]
  rcases readHeader_eq_ok hr with ⟨hk, config, hread, rfl⟩ | ⟨hk, rfl⟩ | ⟨hk, rfl⟩ |
    ⟨hk, acks, hacks, rfl⟩ | ⟨hk, hempty, rfl⟩
  · -- a SYN: exactly its fixed 22 bytes, the configuration after the common part
    have hs := Flags.kind_eq_syn.1 hk
    obtain ⟨hlen, htot, rfl⟩ :=
      checkLengths_eq_ok_of_fixed (by simp [Flags.carriesLength, hs]) hl
    simp only [fixedLength, hs, ↓reduceIte] at hlen
    have hrest : rest.length = 10 := by omega
    have hd : (c.bytes ++ rest).drop c.headerLength.toNat = [] :=
      List.drop_eq_nil_of_le (by omega)
    refine ⟨rfl, hk, by
      simp [Header.size, Header.extension, hlen, Config.bytes, commonHeaderLength], ?_,
      by rw [hd]; rfl, rfl⟩
    rw [hd, List.append_nil]
    exact Config.bytes_of_read hread hrest
  · -- an RST: exactly the common part
    obtain ⟨hs, hrs⟩ := Flags.kind_eq_rst.1 hk
    obtain ⟨rfl, rfl, hlen⟩ := bare_lengths hs (by simp [Flags.carriesLength, hrs]) hl
    have hd : (c.bytes ++ []).drop c.headerLength.toNat = [] :=
      List.drop_eq_nil_of_le (by simp [hlen, commonHeaderLength])
    exact ⟨rfl, hk, by simp [Header.size, Header.extension, hlen, commonHeaderLength],
      by rw [hd]; rfl, by rw [hd]; rfl, rfl⟩
  · -- a NUL: exactly the common part
    obtain ⟨hs, -, hn⟩ := Flags.kind_eq_nul.1 hk
    obtain ⟨rfl, rfl, hlen⟩ := bare_lengths hs (by simp [Flags.carriesLength, hn]) hl
    have hd : (c.bytes ++ []).drop c.headerLength.toNat = [] :=
      List.drop_eq_nil_of_le (by simp [hlen, commonHeaderLength])
    exact ⟨rfl, hk, by simp [Header.size, Header.extension, hlen, commonHeaderLength],
      by rw [hd]; rfl, by rw [hd]; rfl, rfl⟩
  · -- an extended acknowledgment: its payload length field, the extended acknowledgments up to
    -- the header length, then the payload
    obtain ⟨hs, hrs, hn, -⟩ := Flags.kind_eq_eack.1 hk
    obtain ⟨tail, rfl, hpl, h14, hsum, hregion, hdrop⟩ :=
      carried_lengths (by simp [Flags.carriesLength, hs, hrs, hn]) hl
    rw [hregion] at hacks
    have hw := Word.ofWords_of_readWords hacks
    have hlen := congrArg List.length hw
    simp only [Word.length_ofWords, List.length_take] at hlen
    rw [hdrop]
    refine ⟨rfl, hk, ?_, ?_, ?_, hpl⟩
    · simp only [Header.size, Header.extension, List.length_append, Word.length_ofUInt16,
        Word.length_ofWords, commonHeaderLength]
      omega
    · simp only [Header.extension, List.append_assoc, hw, List.take_append_drop]
    · simp only [List.length_drop]
      omega
  · -- a plain acknowledgment: nothing lies between its payload length field and the header
    -- length
    obtain ⟨hs, hrs, hn, -⟩ := Flags.kind_eq_ack.1 hk
    obtain ⟨tail, rfl, hpl, h14, hsum, hregion, hdrop⟩ :=
      carried_lengths (by simp [Flags.carriesLength, hs, hrs, hn]) hl
    rw [hregion, List.take_eq_nil_iff] at hempty
    have h14' : c.headerLength.toNat = 14 := by
      rcases hempty with h | rfl
      · omega
      · simp only [List.length_nil] at hsum
        omega
    rw [hdrop]
    refine ⟨rfl, hk, ?_, ?_, ?_, hpl⟩
    · simp [Header.size, Header.extension, commonHeaderLength, h14']
    · simp [Header.extension, h14']
    · simp only [List.length_drop]
      omega

/-- **Encoding undoes decoding.** Serializing the header and payload of any datagram that decodes,
into an empty buffer, succeeds and gives the datagram back; only an all-ones checksum field,
the other spelling of zero that decoding accepts as well, comes back as zeros. -/
theorem serialize_parsed {b : Bytes} {seg : Segment} (hp : parse b = .ok seg) :
    ∃ sealed, seg.header.serialize seg.payload [] =
      (.ok b.length, sealed,
        if (b.drop 8).take 4 = [255, 255, 255, 255] then b.take 8 ++ [0, 0, 0, 0] ++ b.drop 12
        else b) := by
  obtain ⟨c, rest, pl, rfl, hv, hcl, hres, hrh, hpay⟩ := parse_eq_ok hp
  rcases seg with ⟨h, payload⟩
  obtain ⟨hc, hf, hL, hsplit, hplen, hpl⟩ := readHeader_inv hcl hrh
  dsimp only at hpay hc hf hL hsplit hplen hpl ⊢
  rw [← hpay] at hsplit hplen
  have hfits : h.size ≤ 255 := by
    have := c.headerLength.toNat_lt
    omega
  -- encoding writes the header length it read, so only the checksum field can change
  have hfront : (h.stamp 0).common.front = c.front := by
    have hlen : h.size.toUInt8 = c.headerLength := by
      apply UInt8.toNat.inj
      rw [Header.toNat_toUInt8_size hfits, hL]
    simp [Header.stamp, hc, hlen, Common.front]
  have hsum : h.sealSum payload = if c.checksum = 0xFFFFFFFF then 0 else c.checksum := by
    have h12 : 12 ≤ h.size := by simp [Header.size, commonHeaderLength]
    rw [hL, Common.bytes_eq_front, ← hplen] at hres
    rw [Header.sealSum_eq, hsplit, hfront, hc]
    exact Checksum.ofRegion_field_zero (Common.length_front c) rest h12 hres
      (Common.wordSum_front_pos hv)
  refine ⟨h.stamp (h.sealSum payload), ?_⟩
  rw [Header.serialize,
    Header.encode_eq_of_fits (Header.checkPayload_eq_ok hf (hplen.trans hpl.symm)) hfits,
    Header.layout_stamp_append, hfront, hsplit, hsum, Common.bytes_eq_front]
  -- the datagram's field sits at bytes 8 to 11, between the front and the rest
  have hfield : ∀ w, ((c.front ++ Word.ofUInt32 w ++ rest).drop 8).take 4 = Word.ofUInt32 w := by
    intro w
    rw [List.append_assoc, List.drop_left' (Common.length_front c),
      List.take_left' (Word.length_ofUInt32 w)]
  have htake : (c.front ++ Word.ofUInt32 c.checksum ++ rest).take 8 = c.front := by
    rw [List.append_assoc, List.take_left' (Common.length_front c)]
  have hdrop : (c.front ++ Word.ofUInt32 c.checksum ++ rest).drop 12 = rest :=
    List.drop_left' (by simp)
  rw [hfield, htake, hdrop]
  simp only [Word.ofUInt32_eq_ones_iff]
  by_cases hK : c.checksum = 0xFFFFFFFF
  · simp only [hK, ↓reduceIte, List.nil_append, List.length_append, Common.length_front,
      Word.length_ofUInt32]
    rfl
  · simp [hK]

/-- A NUL whose checksum field is all ones verifies, since the rest of it sums to `2^32 - 1`;
serialized again, it comes back with the field zero. -/
theorem onesChecksum_serialize_parsed :
    parse [12, 1, 0, 12, 243, 254, 255, 243, 255, 255, 255, 255] =
      .ok ⟨.nul ⟨⟨12⟩, 1, 0, 12, 0xF3FE, 0xFFF3, 0xFFFFFFFF⟩, []⟩ ∧
    ∃ sealed, (Header.nul ⟨⟨12⟩, 1, 0, 12, 0xF3FE, 0xFFF3, 0xFFFFFFFF⟩).serialize [] [] =
      (.ok 12, sealed, [12, 1, 0, 12, 243, 254, 255, 243, 0, 0, 0, 0]) := by
  have hp : parse [12, 1, 0, 12, 243, 254, 255, 243, 255, 255, 255, 255] =
      .ok ⟨.nul ⟨⟨12⟩, 1, 0, 12, 0xF3FE, 0xFFF3, 0xFFFFFFFF⟩, []⟩ := rfl
  exact ⟨hp, by simpa using serialize_parsed hp⟩

end Segment

end ReliableDatagram
