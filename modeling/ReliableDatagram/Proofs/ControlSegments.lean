import ReliableDatagram.Proofs.Corruption
import ReliableDatagram.Proofs.Actions
/-!
# Control segments on the wire

A session sends its control segments (SYN, RST, NUL and bare acknowledgments) through
`Act.transmit`, which encodes a header without payload. For a header a builder returns this
never fails: the header goes out as `Header.datagram`, its bytes with the header length and
checksum filled in, and that datagram reads back as the header (`Built.parse_datagram`). So a
statement about what a session transmits can name the builder call, and two transmissions of
the same builder call are the same bytes.

In the other direction, a decoded segment's description is valid and announces the segment's
kind (`Segment.formed_of_parse`, `Segment.valid_of_parse`): SYN, RST and NUL exclude each other,
and the flag a handler tests agrees with the kind it was dispatched on.
-/

namespace ReliableDatagram

namespace Header

/-- The datagram a header announcing no payload goes out as: its bytes with the header length
and checksum filled in. -/
def datagram (h : Header) : Bytes :=
  (h.stamp (h.sealSum [])).layout

variable {h : Header}

/-- A builder's header announcing no payload encodes into its datagram. -/
theorem Built.encode_nil (hb : h.Built) (hp : h.payloadLength = 0) :
    h.encode [] = .ok (h.stamp (h.sealSum []), h.datagram) := by
  have hs := hb.sendable
  rw [encode_eq_of_fits (checkPayload_eq_ok hs.formed (by simp [hp])) hs.fits, List.append_nil]
  rfl

/-- The datagram of a builder's header announcing no payload reads back as that header, with its
length and checksum filled in. -/
theorem Built.parse_datagram (hb : h.Built) (hp : h.payloadLength = 0) :
    Segment.parse h.datagram = .ok ⟨h.stamp (h.sealSum []), []⟩ := by
  have hparse := @parse_stamp h hb.sendable [] (by simp [hp])
  rwa [List.append_nil] at hparse

/-- Filling in the length and checksum keeps every other field of the common part. -/
@[simp] theorem common_stamp (sum : UInt32) :
    (h.stamp sum).common = { h.common with headerLength := h.size.toUInt8, checksum := sum } := by
  simp [stamp]

end Header

namespace Segment

variable {d : Bytes} {seg : Segment}

/-- A decoded segment's description announces its kind. -/
theorem formed_of_parse (hp : parse d = .ok seg) : seg.header.Formed := by
  obtain ⟨c, rest, pl, rfl, -, hcl, -, hrh, -⟩ := parse_eq_ok hp
  obtain ⟨hc, hf, -⟩ := readHeader_inv hcl hrh
  exact hf

/-- A decoded segment's description is valid: at most one of SYN, RST and NUL is set. -/
theorem valid_of_parse (hp : parse d = .ok seg) : seg.header.common.flags.valid = true := by
  obtain ⟨c, rest, pl, rfl, -, hcl, -, hrh, -⟩ := parse_eq_ok hp
  obtain ⟨hc, -⟩ := readHeader_inv hcl hrh
  rw [hc]
  exact (valid_of_parse_eq_ok hp).2

end Segment

namespace Act

/-- A builder's header announcing no payload always goes out, as its datagram, and ends the idle
period. -/
theorem run_transmit_built (e : Endpoint) {h : Header} (hb : h.Built) (hp : h.payloadLength = 0) :
    ((transmit h).run e).2 = { e with
      effects := e.effects ++ [.transmit h.datagram]
      session := { e.session with timers := { e.session.timers with idle := false } } } := by
  rw [run_transmit, hb.encode_nil hp]

/-- A session's SYN goes out as the datagram of the builder's SYN with its configuration and
initial number. -/
theorem run_sendSyn_datagram (e : Endpoint) (ack : Option UInt16) :
    ((sendSyn ack).run e).2 = { e with
      effects := e.effects ++
        [.transmit (Header.buildSyn e.session.info.config e.session.info.sendInitial ack).datagram]
      session := { e.session with timers := { e.session.timers with idle := false } } } := by
  rw [run_sendSyn, run_transmit_built e (.syn _ _ _) rfl]

end Act

end ReliableDatagram
