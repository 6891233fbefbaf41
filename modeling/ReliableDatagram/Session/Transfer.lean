import ReliableDatagram.Session.Lifecycle
/-!
# Moving data

Sending: a payload is accepted when the session is connected, the payload is nonempty and fits
the peer's segment size less the 14-byte header, and its sequence number lies in the send
window. The encoded segment is kept in the send ring, gets a retransmission wake-up and is
transmitted.

Receiving: a segment counts only if its number lies in the receive window, the
`maxOutstanding + 1` numbers after the last delivered one. Its cumulative acknowledgment moves
the send window forward when it acknowledges something sent; its extended acknowledgments
release the segments they name. A payload with the next expected number is delivered at once,
followed by every held segment that continues the run; one further ahead is held if its slot is
free. Every segment that counts, and every one that does not, is answered with an
acknowledgment.

Retransmitting: a delivered retransmission wake-up resends the stored segment byte for byte
while the segment is unacknowledged and the retries are not used up. A segment whose retries
run out while still unacknowledged ends the connection.
-/

namespace ReliableDatagram

namespace Act

/-- Accepts a payload for sending, or says why not. -/
def sendData (payload : Bytes) : Act (Except SendError Unit) := do
  let s ← session
  let i := s.info
  let some r := i.remote | return .error .notConnected
  let max := r.maxSegmentSize.toNat - ackHeaderLength
  if payload.isEmpty then return .error .emptyPayload
  if payload.length > max then return .error (.payloadTooLarge payload.length max)
  if !s.canSend then return .error .windowFull
  let (some ring, some queue) := (s.sendRing, s.retransmit) | return .error .notConnected
  let seq := i.sendNext
  match (Header.buildData seq i.receiveAcked payload.length.toUInt16).encode payload with
  | .error _ => return .error (.payloadTooLarge payload.length max)
  | .ok (_, bytes) =>
    let queue ← withSchedule fun sc ↦ queue.add sc seq i.config.retransmissionDelay
    modifySession fun s ↦ { s with
      sendRing := some (ring.store seq bytes).2, retransmit := some queue }
    emit (.transmit bytes)
    modifyTimers fun t ↦ { t with idle := false }
    modifyInfo fun i ↦ { i with sendNext := seq + 1 }
    emit (.accepted seq)
    return .ok ()

/-- Whether a segment's number lies in the receive window. -/
def inReceiveWindow (c : Common) : Act Bool := do
  let i ← info
  return Seq.inWindow c.seq (i.receiveAcked + 1) i.config.maxOutstanding.toUInt16

/-- Takes a cumulative acknowledgment of everything up to `ack`. It counts only when it lies
between the send window's base and `sendNext`; then the send window moves past it. -/
def acknowledge (ack : UInt16) : Act Unit := do
  let s ← session
  let (some ring, some queue) := (s.sendRing, s.retransmit) | return
  let k := Seq.offset (ack + 1) ring.base
  if k > Seq.offset s.info.sendNext ring.base then return
  if k = 0 then return
  let queue ← withSchedule fun sc ↦ queue.advance sc k
  modifySession fun s ↦ { s with
    sendRing := some (ring.advanceBase k), retransmit := some queue
    info := { s.info with sendUnacked := ack + 1 } }

/-- Releases the unacknowledged segments an extended acknowledgment names. -/
def acknowledgeEach : List UInt16 → Act Unit
  | [] => pure ()
  | seq :: rest => do
    let s ← session
    match s.sendRing, s.retransmit with
    | some ring, some queue =>
      if ring.isInUse seq then
        let queue ← withSchedule fun sc ↦ queue.remove sc seq
        modifySession fun s ↦ { s with
          sendRing := some (ring.unmark seq), retransmit := some queue }
      acknowledgeEach rest
    | _, _ => pure ()

/-- Delivers held segments while they continue the run after the last delivered number,
moving the receive window by one for each, and once more for the gap that ends the run. At
most `fuel` segments are delivered; the receive ring's capacity plus one always suffices. -/
def drainHeld : Nat → Act Unit
  | 0 => pure ()
  | fuel + 1 => do
    let s ← session
    let some ring := s.receiveRing | return
    let next := s.info.receiveAcked + 1
    let held := if ring.isInUse next then ring.slot next else none
    modifySession fun s ↦ { s with receiveRing := some (ring.advanceBase 1) }
    match held with
    | none => pure ()
    | some payload =>
      modifyInfo fun i ↦ { i with receiveAcked := next }
      emit (.deliver payload)
      drainHeld fuel

/-- Delivers the payload with the next expected number, then the held run after it. -/
def deliver (seq : UInt16) (payload : Bytes) : Act Unit := do
  modifyInfo fun i ↦ { i with receiveAcked := seq }
  emit (.deliver payload)
  let fuel := ((← session).receiveRing.map (·.capacity)).getD 0 + 1
  drainHeld fuel

/-- Handles a data segment or acknowledgment while connected. -/
def segmentArrives (c : Common) (acks : List UInt16) (payload : Bytes) : Act Unit := do
  if !(← inReceiveWindow c) then
    sendAck
    return
  if c.flags.has .ack then acknowledge c.ack
  if !acks.isEmpty then acknowledgeEach acks
  if payload.isEmpty then return
  let expected := (← info).receiveAcked + 1
  if c.seq = expected then deliver c.seq payload
  else
    match (← session).receiveRing with
    | some ring =>
      if ring.hasSlot c.seq && !ring.isInUse c.seq then
        modifySession fun s ↦ { s with receiveRing := some (ring.store c.seq payload).2 }
    | none => pure ()
  sendAck

/-- Handles a NUL while connected: its acknowledgment counts, and it is answered. -/
def nulArrives (c : Common) : Act Unit := do
  if (← inReceiveWindow c) && c.flags.has .ack then acknowledge c.ack
  sendAck

/-- Honours a retransmission wake-up for `seq`. The result is `false` exactly when a segment
still unacknowledged has run out of retries. -/
def retransmitFired (seq : UInt16) (h : Handle) : Act Bool := do
  let s ← session
  let (some ring, some queue) := (s.sendRing, s.retransmit) | return true
  let max := s.info.config.maxRetransmissions
  let (outcome, queue) ← withSchedule fun sc ↦
    let (o, q, sc) := queue.fire sc seq h fun e ↦ e.transmissions < max && ring.isInUse seq
    ((o, q), sc)
  modifySession fun s ↦ { s with retransmit := some queue }
  match outcome with
  | .rescheduled =>
    emit (.transmit ((ring.slot seq).getD []))
    modifyTimers fun t ↦ { t with idle := false }
    return true
  | .stale => return true
  | .exhausted => return !ring.isInUse seq

end Act

end ReliableDatagram
