import ReliableDatagram.Session.Basic
import ReliableDatagram.Wire.Encode
/-!
# Control segments a session sends

A session sends headers without payload in five situations: its SYN (with an acknowledgment
while connecting), a plain or extended acknowledgment, a NUL probe, its own RST, and an RST
answering a segment that does not belong to a connection.

The answering RST follows the peer's numbering: when the offending segment carries ACK or is
a NUL it claims the number after the acknowledged one, otherwise it acknowledges the offending
segment's own number. An RST is never answered.

An acknowledgment lists the out-of-order segments held in the receive ring, as many as fit
both in a header (120) and in the peer's segment size.
-/

namespace ReliableDatagram

namespace Act

/-- Sends a header without payload. Every transmission ends an idle period. -/
def transmit (h : Header) : Act Unit := do
  match h.encode [] with
  | .ok (_, bytes) =>
    emit (.transmit bytes)
    modifyTimers fun t ↦ { t with idle := false }
  | .error _ => pure ()

/-- Sends this side's SYN, acknowledging `ack` when given. -/
def sendSyn (ack : Option UInt16) : Act Unit := do
  let i ← info
  transmit (Header.buildSyn i.config i.sendInitial ack)

/-- How many out-of-order numbers an acknowledgment to a peer may list. -/
def eackLimit (remote : Option Config) : Nat :=
  match remote with
  | some r => min maxExtendedAcks ((r.maxSegmentSize.toNat - ackHeaderLength) / 2)
  | none => maxExtendedAcks

/-- Acknowledges what has been delivered in order, listing the segments held out of order. -/
def sendAck : Act Unit := do
  let s ← session
  let i := s.info
  let acks := (s.receiveRing.map (·.enumerate (eackLimit i.remote))).getD []
  transmit <| if acks.isEmpty then Header.buildAck i.sendNext i.receiveAcked
    else Header.buildEack i.sendNext i.receiveAcked acks

/-- Sends this side's RST, acknowledging what has been delivered. -/
def sendRst : Act Unit := do
  let i ← info
  transmit (Header.buildRst 0 i.sendNext (some i.receiveAcked))

/-- The RST that answers a segment with common part `c`, unless `c` is itself an RST. -/
def rstFor (c : Common) : Option Header :=
  if c.flags.has .rst then none
  else if c.flags.has .ack || c.flags.has .nul then some (Header.buildRst 0 (c.ack + 1) none)
  else some (Header.buildRst 0 0 (some c.seq))

/-- Answers a segment that has no place in the connection with an RST. -/
def replyRst (c : Common) : Act Unit :=
  match rstFor c with
  | some h => transmit h
  | none => pure ()

end Act

end ReliableDatagram
