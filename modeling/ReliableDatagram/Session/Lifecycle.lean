import ReliableDatagram.Session.Wakeups
/-!
# Entering and leaving states

Moving to another state first runs what leaving the old state requires, then what entering the
new one requires, then reports the new state; moving to the current state does nothing.

* Leaving `initiating` or `connecting` withdraws the handshake wake-up; leaving `connected`
  drops the retransmission entries and the keep-alive wake-up; leaving `disconnecting`
  withdraws the disconnect wake-up.
* Entering `closed` or `waiting` withdraws every wake-up and drops the windows and the peer's
  configuration. Entering `initiating` sends a SYN, entering `connecting` a SYN that
  acknowledges the peer's, and both start the handshake retries. Entering `connected` opens
  the windows and, for an active opener, arms the keep-alive wake-up. Entering
  `disconnecting` arms the grace period.

The send ring and retransmission queue cover the peer's window from `sendNext`; the receive
ring covers this side's window from two past the last delivered number, since the next
expected segment is delivered directly and never held.
-/

namespace ReliableDatagram

namespace Act

/-- Creates the three windows of a connection. -/
def openWindows : Act Unit := do
  let i ← info
  let r := i.remote.getD i.config
  let q ← withSchedule fun s ↦ (RetransmitQueue.new r.maxOutstanding).setBase s i.sendNext
  modifySession fun s ↦ { s with
    sendRing := some ((SegmentBuffer.new r.maxSegmentSize r.maxOutstanding).setBase i.sendNext)
    retransmit := some q
    receiveRing := some ((SegmentBuffer.new i.config.maxSegmentSize i.config.maxOutstanding).setBase
      (i.receiveAcked + 2)) }

/-- Drops the windows, withdrawing the retransmission wake-ups, and forgets the peer's
configuration. -/
def dropWindows : Act Unit := do
  cancelRetransmissions
  modifySession fun s ↦ { s with
    sendRing := none, retransmit := none, receiveRing := none
    info := { s.info with remote := none } }

/-- What leaving a state requires. -/
def leave : State → Act Unit
  | .initiating | .connecting => cancelHandshake
  | .connected => do
    cancelRetransmissions
    cancelKeepAlive
  | .disconnecting => cancelDisconnect
  | .closed | .waiting => pure ()

/-- What entering a state requires. -/
def arrive : State → Act Unit
  | .closed | .waiting => do
    cancelAllTimers
    dropWindows
  | .initiating => do
    sendSyn none
    armHandshake
  | .connecting => do
    sendSyn (some (← info).receiveAcked)
    armHandshake
  | .connected => do
    openWindows
    if !(← info).passive then armKeepAlive
  | .disconnecting => armDisconnect

/-- Moves to state `next`. -/
def enter (next : State) : Act Unit := do
  let previous := (← session).state
  if previous = next then return
  leave previous
  modifySession fun s ↦ { s with state := next }
  arrive next
  emit (.entered next)

/-- Gives up on the connection: a passive opener waits again, an active one closes. -/
def reset : Act Unit := do
  enter (if (← info).passive then .waiting else .closed)

/-- Starts a connection attempt with initial sequence number `iss`. -/
def start (iss : UInt16) (passive : Bool) : Act Unit :=
  modifyInfo fun i ↦ { i with
    sendInitial := iss, sendUnacked := iss, sendNext := iss + 1, remote := none, passive }

/-- The handshake is complete: the SYN counts as acknowledged. -/
def establish : Act Unit := do
  modifyInfo fun i ↦ { i with sendUnacked := i.sendInitial + 1 }
  enter .connected

/-- Whether a segment acknowledges this side's SYN. -/
def acknowledgesSyn (c : Common) : Act Bool :=
  return c.flags.has .ack && c.ack == (← info).sendInitial

/-- Takes the peer's SYN: a usable configuration is recorded with the peer's initial number;
an unusable one is answered with an RST and the attempt is given up. -/
def acceptRemote (c : Common) (config : Config) : Act Bool := do
  if config.isValid then
    modifyInfo fun i ↦ { i with
      remote := some config, receiveInitial := c.seq, receiveAcked := c.seq }
    return true
  replyRst c
  reset
  return false

end Act

end ReliableDatagram
