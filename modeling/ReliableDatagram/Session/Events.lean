import ReliableDatagram.Session.Transfer
import ReliableDatagram.Wire.Decode
/-!
# Events

A session reacts to three kinds of event: an intent of its application (connect, wait,
close, invalidate, send), a datagram from the network, and the delivery of a wake-up. This
module gives, state by state, the reaction to each.

A datagram longer than this side's segment size, or one that does not decode, is ignored.
Otherwise the segment is handled by kind:

* in `closed` and `waiting`, anything but a SYN (and, while waiting, a SYN without ACK, which
  starts a passive handshake) is answered with an RST;
* in `initiating`, a SYN either completes the handshake (when it acknowledges ours) or makes
  it simultaneous; an RST gives up;
* in `connecting`, a segment that acknowledges our SYN completes the handshake and is then
  handled as in `connected`; a SYN with another initial number, or an extended
  acknowledgment, gives up;
* in `connected`, data, acknowledgments and NULs move the windows; a repeated SYN is
  acknowledged again, a different one closes; an RST starts the grace period;
* in `disconnecting`, only an RST (which closes) matters.
-/

namespace ReliableDatagram

namespace Act

/-- Reaction to a SYN with common part `c` announcing `config`. -/
def onSyn (c : Common) (config : Config) : Act Unit := do
  let s ← session
  match s.state with
  | .closed => replyRst c
  | .waiting =>
    if c.flags.has .ack then replyRst c
    else if ← acceptRemote c config then enter .connecting
  | .initiating =>
    if c.flags.has .ack then
      if !(← acknowledgesSyn c) then replyRst c
      else if ← acceptRemote c config then
        establish
        sendAck
    else if ← acceptRemote c config then enter .connecting
  | .connecting =>
    if c.seq ≠ s.info.receiveInitial then
      replyRst c
      reset
    else if ← acknowledgesSyn c then
      establish
      sendAck
    else sendSyn (some s.info.receiveAcked)
  | .connected =>
    if c.seq = s.info.receiveInitial then sendAck
    else
      replyRst c
      enter .closed
  | .disconnecting => pure ()

/-- Reaction to an RST. -/
def onRst : Act Unit := do
  match (← session).state with
  | .initiating | .connecting => reset
  | .connected =>
    sendRst
    enter .disconnecting
  | .disconnecting => enter .closed
  | .closed | .waiting => pure ()

/-- Reaction to a NUL with common part `c`. -/
def onNul (c : Common) : Act Unit := do
  match (← session).state with
  | .closed | .waiting => replyRst c
  | .connecting =>
    if ← acknowledgesSyn c then
      establish
      nulArrives c
    else replyRst c
  | .connected => nulArrives c
  | .initiating | .disconnecting => pure ()

/-- Reaction to an extended acknowledgment. -/
def onEack (c : Common) (acks : List UInt16) (payload : Bytes) : Act Unit := do
  match (← session).state with
  | .closed | .waiting => replyRst c
  | .connecting =>
    replyRst c
    reset
  | .connected => segmentArrives c acks payload
  | .initiating | .disconnecting => pure ()

/-- Reaction to a plain acknowledgment, with or without payload. -/
def onAck (c : Common) (payload : Bytes) : Act Unit := do
  match (← session).state with
  | .closed | .waiting => replyRst c
  | .connecting =>
    if ← acknowledgesSyn c then
      establish
      segmentArrives c [] payload
    else replyRst c
  | .connected => segmentArrives c [] payload
  | .initiating | .disconnecting => pure ()

/-- Reaction to a decoded segment. -/
def onSegment (seg : Segment) : Act Unit :=
  match seg.header with
  | .syn c config => onSyn c config
  | .rst _ => onRst
  | .nul c => onNul c
  | .ack c _ => onAck c seg.payload
  | .eack c _ acks => onEack c acks seg.payload

/-- Reaction to a datagram from the network. -/
def receive (datagram : Bytes) : Act Unit := do
  if datagram.length > (← info).config.maxSegmentSize.toNat then return
  match Segment.parse datagram with
  | .ok seg => onSegment seg
  | .error _ => pure ()

/-- Reaction to the delivery of wake-up `h` for `timer`. -/
def timerFired (h : Handle) (timer : Timer) : Act Unit := do
  let s ← session
  match s.state, timer with
  | .connected, .retransmission seq =>
    if !(← retransmitFired seq h) then
      sendRst
      enter .disconnecting
  | .connected, .keepAlive => keepAliveFired h
  | .initiating, .handshake =>
    match ← handshakeTimeout h with
    | some true => sendSyn none
    | some false => reset
    | none => pure ()
  | .connecting, .handshake =>
    match ← handshakeTimeout h with
    | some true => sendSyn (some (← info).receiveAcked)
    | some false => reset
    | none => pure ()
  | .disconnecting, .disconnect =>
    if s.timers.disconnect = some h then
      modifyTimers fun t ↦ { t with disconnect := none }
      enter .closed
  | _, _ => pure ()

/-- Opens actively with initial sequence number `iss`; only a closed session opens. -/
def connect (iss : UInt16) : Act Unit := do
  if (← session).state = .closed then
    start iss false
    enter .initiating

/-- Opens passively with initial sequence number `iss`; only a closed session opens. -/
def wait (iss : UInt16) : Act Unit := do
  if (← session).state = .closed then
    start iss true
    enter .waiting

/-- Closes the connection, telling the peer when there is one. -/
def close : Act Unit := do
  match (← session).state with
  | .waiting => enter .closed
  | .initiating =>
    transmit (Header.buildRst 0 (← info).sendNext none)
    enter .closed
  | .connecting =>
    sendRst
    enter .closed
  | .connected =>
    sendRst
    enter .disconnecting
  | .closed | .disconnecting => pure ()

/-- Abandons the connection without telling the peer. -/
def invalidate : Act Unit :=
  enter .closed

/-- Offers a payload for sending. -/
def send (payload : Bytes) : Act (Except SendError Unit) := do
  if (← session).state = .connected then sendData payload
  else return .error .notConnected

/-- Ends the session's life: every wake-up it holds is withdrawn. -/
def destroy : Act Unit :=
  cancelAllTimers

end Act

end ReliableDatagram
