import ReliableDatagram.Wire.Decode
/-!
# Decoding reads back what was encoded

A segment on the wire is its header's twelve common bytes, the kind-specific bytes and the
payload. Decoding reads the common part from fixed positions and the payload from the header
length on, whatever the kind, and it picks the kind from the description flags. So when a
datagram that some header and payload were encoded into decodes at all, it decodes to exactly
that sealed header and that payload, provided the header's flags announce its own kind
(`Header.Formed`); every header the session builds does.

Only the reading direction is stated here: these lemmas say nothing about whether the checksum
verifies, they say what a datagram means once it is accepted. That is all a receiver's safety
depends on, since a datagram that does not decode is ignored.
-/

namespace ReliableDatagram

/-- A successful bind of `Except` ran both halves successfully. -/
theorem exists_of_bind_eq_ok {ε α β : Type} {x : Except ε α} {g : α → Except ε β} {b : β}
    (h : x >>= g = .ok b) : ∃ a, x = .ok a ∧ g a = .ok b := by
  cases x with
  | error e => cases h
  | ok a => exact ⟨a, rfl, h⟩

namespace Config

/-- The ten configuration bytes of a SYN read back as the configuration. -/
theorem read_bytes_append (c : Config) (rest : Bytes) : read (c.bytes ++ rest) = some c := by
  simp [bytes, read, Word.ofUInt16]

end Config

namespace Common

theorem bytes_eq (c : Common) :
    c.bytes = c.flags.bits :: c.version :: c.reserved :: c.headerLength ::
      (c.seq >>> 8).toUInt8 :: c.seq.toUInt8 :: (c.ack >>> 8).toUInt8 :: c.ack.toUInt8 ::
      (c.checksum >>> 24).toUInt8 :: (c.checksum >>> 16).toUInt8 :: (c.checksum >>> 8).toUInt8 ::
      c.checksum.toUInt8 :: [] := rfl

@[simp] theorem length_bytes (c : Common) : c.bytes.length = commonHeaderLength := rfl

end Common

namespace Flags

/-- The kind a description announces, as decoding reads it: the first of SYN, RST, NUL and EACK
that is set, and a plain acknowledgment when none is. -/
def kind (f : Flags) : Kind :=
  if f.has .syn then .syn
  else if f.has .rst then .rst
  else if f.has .nul then .nul
  else if f.has .eack then .eack
  else .ack

theorem kind_eq_syn {f : Flags} : f.kind = .syn ↔ f.has .syn = true := by
  unfold kind
  cases f.has .syn <;> cases f.has .rst <;> cases f.has .nul <;> cases f.has .eack <;> simp

theorem kind_eq_rst {f : Flags} : f.kind = .rst ↔ f.has .syn = false ∧ f.has .rst = true := by
  unfold kind
  cases f.has .syn <;> cases f.has .rst <;> cases f.has .nul <;> cases f.has .eack <;> simp

theorem kind_eq_nul {f : Flags} :
    f.kind = .nul ↔ f.has .syn = false ∧ f.has .rst = false ∧ f.has .nul = true := by
  unfold kind
  cases f.has .syn <;> cases f.has .rst <;> cases f.has .nul <;> cases f.has .eack <;> simp

theorem kind_eq_eack {f : Flags} : f.kind = .eack ↔
    f.has .syn = false ∧ f.has .rst = false ∧ f.has .nul = false ∧ f.has .eack = true := by
  unfold kind
  cases f.has .syn <;> cases f.has .rst <;> cases f.has .nul <;> cases f.has .eack <;> simp

theorem kind_eq_ack {f : Flags} : f.kind = .ack ↔
    f.has .syn = false ∧ f.has .rst = false ∧ f.has .nul = false ∧ f.has .eack = false := by
  unfold kind
  cases f.has .syn <;> cases f.has .rst <;> cases f.has .nul <;> cases f.has .eack <;> simp

end Flags

namespace Segment

/-- Decoding a datagram that starts with a common part reads that common part back; what
follows is checked and read as `parse` says. -/
theorem parse_bytes_append (c : Common) (rest : Bytes) :
    parse (c.bytes ++ rest) =
      if c.version ≠ protocolVersion then .error (.versionMismatch c.version)
      else if !c.flags.valid then .error .invalid
      else (do
        let payloadLength ← checkLengths c.flags c.headerLength (c.bytes ++ rest).length rest
        let residue := Checksum.ofRegion c.headerLength.toNat (c.flags.has .chk) (c.bytes ++ rest)
          payloadLength
        if residue ≠ 0 then throw (.checksumMismatch residue)
        let header ← readHeader c payloadLength (c.bytes ++ rest) rest
        pure ⟨header, (c.bytes ++ rest).drop c.headerLength.toNat⟩) := by
  rw [Common.bytes_eq]
  simp only [List.cons_append, List.nil_append]
  unfold parse
  simp only [Word.toUInt16_ofUInt16, Word.toUInt32_ofUInt32]

/-- A length check that reads a payload length field passes with the length the field holds. -/
theorem checkLengths_eq_ok {f : Flags} {len : UInt8} {total : Nat} {rest tail : Bytes} {n : UInt16}
    (hf : f.carriesLength = true) (hr : Word.read16 rest = some (n, tail)) {pl : Nat}
    (h : checkLengths f len total rest = .ok pl) : pl = n.toNat := by
  unfold checkLengths at h
  simp only [hf, ↓reduceIte, hr] at h
  split at h
  · cases h
  · cases h
    rfl

end Segment

namespace Header

/-- A header whose description announces its own kind. -/
def Formed (h : Header) : Prop :=
  h.common.flags.kind = h.kind

@[simp] theorem common_setCommon (h : Header) (c : Common) : (h.setCommon c).common = c := by
  cases h <;> rfl

@[simp] theorem kind_setCommon (h : Header) (c : Common) : (h.setCommon c).kind = h.kind := by
  cases h <;> rfl

@[simp] theorem extension_setCommon (h : Header) (c : Common) :
    (h.setCommon c).extension = h.extension := by
  cases h <;> rfl

@[simp] theorem payloadLength_setCommon (h : Header) (c : Common) :
    (h.setCommon c).payloadLength = h.payloadLength := by
  cases h <;> rfl

/-! ### The headers the session builds announce their kinds -/

theorem formed_buildSyn (config : Config) (seq : UInt16) (ack : Option UInt16) :
    (buildSyn config seq ack).Formed := by
  simp only [Formed, buildSyn, fresh, common, kind]
  cases ack.isSome <;> decide

theorem formed_buildRst (code : UInt8) (seq : UInt16) (ack : Option UInt16) :
    (buildRst code seq ack).Formed := by
  simp only [Formed, buildRst, fresh, common, kind]
  cases ack.isSome <;> decide

theorem formed_buildNul (seq ack : UInt16) : (buildNul seq ack).Formed := by
  simp only [Formed, buildNul, fresh, common, kind, Option.isSome_some]
  decide

theorem formed_buildData (seq ack payloadLength : UInt16) :
    (buildData seq ack payloadLength).Formed := by
  simp only [Formed, buildData, fresh, common, kind, Option.isSome_some]
  cases decide (payloadLength > 0) <;> decide

theorem formed_buildEackData (seq ack : UInt16) (acks : List UInt16) (payloadLength : UInt16) :
    (buildEackData seq ack acks payloadLength).Formed := by
  simp only [Formed, buildEackData, fresh, common, kind, Option.isSome_some]
  cases decide (payloadLength > 0) <;> decide

/-- What a successful encoding returns: the header with its length and checksum filled in,
and its layout followed by the payload. -/
theorem encode_eq_ok {h sealed : Header} {payload bytes : Bytes}
    (he : h.encode payload = .ok (sealed, bytes)) :
    h.checkPayload payload = .ok () ∧ commonHeaderLength + h.extension.length ≤ 255 ∧
      ∃ sum, sealed = h.setCommon { h.common with
          headerLength := (commonHeaderLength + h.extension.length).toUInt8, checksum := sum } ∧
        bytes = sealed.layout ++ payload := by
  unfold encode at he
  cases hc : h.checkPayload payload with
  | error err =>
    rw [hc] at he
    cases he
  | ok u =>
    rw [hc] at he
    by_cases hl : commonHeaderLength + h.extension.length > 255
    · simp only [bind, Except.bind, hl, ↓reduceIte, throw, throwThe, MonadExceptOf.throw] at he
      cases he
    · simp only [bind, Except.bind, hl, ↓reduceIte, pure, Except.pure, Except.ok.injEq,
        Prod.mk.injEq] at he
      obtain ⟨rfl, rfl⟩ := he
      exact ⟨rfl, by omega, _, rfl, rfl⟩

/-- The bytes after the common part of a header whose description announces its kind read back
as the header's own kind-specific fields. -/
theorem readHeader_layout {h : Header} (hf : h.Formed) {c : Common} (hc : c.flags = h.common.flags)
    (hL : c.headerLength.toNat = commonHeaderLength + h.extension.length) {pl : Nat}
    (hpl : h.common.flags.carriesLength = true → pl = h.payloadLength.toNat) (payload : Bytes) :
    Segment.readHeader c pl (c.bytes ++ (h.extension ++ payload)) (h.extension ++ payload) =
      .ok (h.setCommon c) := by
  -- the region after the acknowledgment header's length field, where extended acknowledgments sit
  have hregion : ((c.bytes ++ (h.extension ++ payload)).take c.headerLength.toNat).drop
      ackHeaderLength = h.extension.drop 2 := by
    rw [hL, ← List.append_assoc, List.take_left' (by simp)]
    simp [ackHeaderLength, commonHeaderLength, List.drop_append]
  unfold Formed at hf
  rw [← hc] at hf
  cases h with
  | syn c₀ config =>
    have hs : c.flags.has .syn = true := Flags.kind_eq_syn.1 hf
    simp only [Segment.readHeader, hs, ↓reduceIte, extension, Config.read_bytes_append]
    rfl
  | rst c₀ =>
    obtain ⟨hs, hr'⟩ := Flags.kind_eq_rst.1 hf
    simp only [Segment.readHeader, hs, hr', ↓reduceIte, Bool.false_eq_true]
    rfl
  | nul c₀ =>
    obtain ⟨hs, hr', hn⟩ := Flags.kind_eq_nul.1 hf
    simp only [Segment.readHeader, hs, hr', hn, ↓reduceIte, Bool.false_eq_true]
    rfl
  | ack c₀ n =>
    obtain ⟨hs, hr', hn, he⟩ := Flags.kind_eq_ack.1 hf
    have hcarries : c.flags.carriesLength = true := by simp [Flags.carriesLength, hs, hr', hn]
    simp only [Segment.readHeader, hs, hr', hn, he, ↓reduceIte, Bool.false_eq_true]
    rw [hregion]
    simp only [extension, Word.ofUInt16, List.drop_succ_cons, List.drop_zero, List.isEmpty_nil,
      ↓reduceIte]
    rw [hc] at hcarries
    simp only [common, payloadLength] at hpl
    simp [setCommon, hpl hcarries]
  | eack c₀ n acks =>
    obtain ⟨hs, hr', hn, he⟩ := Flags.kind_eq_eack.1 hf
    have hcarries : c.flags.carriesLength = true := by simp [Flags.carriesLength, hs, hr', hn]
    simp only [Segment.readHeader, hs, hr', hn, he, ↓reduceIte, Bool.false_eq_true]
    rw [hregion]
    simp only [extension]
    rw [List.drop_left' (by simp), Word.readWords_ofWords]
    rw [hc] at hcarries
    simp only [common, payloadLength] at hpl
    simp [setCommon, hpl hcarries]

/-- What `readHeader` returns on the bytes after the common part of a header whose description
announces its kind: that header, with the common part read. -/
theorem readHeader_eq {h : Header} (hf : h.Formed) {c : Common} (hc : c.flags = h.common.flags)
    (hL : c.headerLength.toNat = commonHeaderLength + h.extension.length) {pl : Nat}
    (hpl : h.common.flags.carriesLength = true → pl = h.payloadLength.toNat) (payload : Bytes)
    {header : Header}
    (hr : Segment.readHeader c pl (c.bytes ++ (h.extension ++ payload)) (h.extension ++ payload) =
      .ok header) :
    header = h.setCommon c := by
  rw [readHeader_layout hf hc hL hpl payload] at hr
  cases hr
  rfl

/-- A header whose description announces its kind carries a payload length field exactly when
it is an acknowledgment, and the field then holds its payload length. -/
theorem read16_extension {h : Header} (hf : h.Formed) (hc : h.common.flags.carriesLength = true)
    (payload : Bytes) :
    Word.read16 (h.extension ++ payload) =
      some (h.payloadLength, h.extension.drop 2 ++ payload) := by
  unfold Formed at hf
  cases h with
  | syn c₀ config =>
    have hs : c₀.flags.has .syn = true := Flags.kind_eq_syn.1 hf
    simp [common, Flags.carriesLength, hs] at hc
  | rst c₀ =>
    have hr : c₀.flags.has .rst = true := (Flags.kind_eq_rst.1 hf).2
    simp [common, Flags.carriesLength, hr] at hc
  | nul c₀ =>
    have hn : c₀.flags.has .nul = true := (Flags.kind_eq_nul.1 hf).2.2
    simp [common, Flags.carriesLength, hn] at hc
  | ack c₀ n => simp [extension, payloadLength]
  | eack c₀ n acks => simp [extension, payloadLength, Word.ofUInt16, Word.read16]

/-- **Decoding reads back what was encoded.** A datagram that a header announcing its own kind
and a payload were encoded into decodes, when it decodes at all, to the sealed header and the
payload. -/
theorem parse_encode {h sealed : Header} {payload bytes : Bytes} {seg : Segment} (hf : h.Formed)
    (he : h.encode payload = .ok (sealed, bytes)) (hp : Segment.parse bytes = .ok seg) :
    seg = ⟨sealed, payload⟩ := by
  obtain ⟨-, hlen, sum, rfl, rfl⟩ := encode_eq_ok he
  have hL : (commonHeaderLength + h.extension.length).toUInt8.toNat =
      commonHeaderLength + h.extension.length := by
    simp only [Nat.toUInt8, UInt8.toNat_ofNat', Nat.reducePow]
    omega
  rw [layout, common_setCommon, extension_setCommon, List.append_assoc,
    Segment.parse_bytes_append] at hp
  split at hp
  · cases hp
  split at hp
  · cases hp
  obtain ⟨pl, hcl, hp⟩ := exists_of_bind_eq_ok hp
  dsimp only at hp
  split at hp
  · cases hp
  obtain ⟨header, hrh, hp⟩ := exists_of_bind_eq_ok hp
  cases hp
  have hpl : h.common.flags.carriesLength = true → pl = h.payloadLength.toNat := fun hc ↦
    Segment.checkLengths_eq_ok hc (read16_extension hf hc payload) hcl
  rw [readHeader_eq (c := { h.common with
    headerLength := (commonHeaderLength + h.extension.length).toUInt8, checksum := sum })
    hf rfl hL hpl payload hrh]
  simp only [Segment.mk.injEq, true_and]
  rw [hL, ← List.append_assoc, List.drop_left' (by simp)]

end Header

namespace Segment

/-- A decoded payload is the datagram's tail: never longer than the datagram. -/
theorem length_payload_le {d : Bytes} {seg : Segment} (h : parse d = .ok seg) :
    seg.payload.length ≤ d.length := by
  unfold parse at h
  split at h
  · dsimp only at h
    split at h
    · cases h
    split at h
    · cases h
    obtain ⟨pl, -, h⟩ := exists_of_bind_eq_ok h
    split at h
    · cases h
    obtain ⟨header, -, h⟩ := exists_of_bind_eq_ok h
    cases h
    rw [List.length_drop]
    exact Nat.sub_le _ _
  · cases h

end Segment

end ReliableDatagram
