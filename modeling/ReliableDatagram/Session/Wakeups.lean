import ReliableDatagram.Session.Output
/-!
# Wake-ups a session holds

A session holds at most one handshake wake-up (while initiating or connecting), at most one
keep-alive wake-up and one retransmission wake-up per unacknowledged segment (while
connected), and at most one disconnect wake-up (while disconnecting). Arming a wake-up
withdraws the one it replaces; a delivered wake-up is honoured only if its handle is the one
held, and is then no longer held.

The handshake is retried up to `maxRetransmissions` times, each after the retransmission
timeout. The keep-alive wake-up is armed only for an active opener whose peer asked for a
nonzero null-segment timeout; when it goes off after an idle period it sends a NUL. The
disconnect grace period lasts five seconds.
-/

namespace ReliableDatagram

/-- The disconnect grace period, in milliseconds. -/
def disconnectDelay : Nat := 5000

namespace Act

/-- Withdraws the handshake wake-up. -/
def cancelHandshake : Act Unit := do
  cancel (← session).timers.handshake
  modifyTimers fun t ↦ { t with handshake := none }

/-- Withdraws the current handshake wake-up and arms a new one. -/
def rearmHandshake : Act Unit := do
  cancelHandshake
  let h ← schedule (← info).config.retransmissionDelay .handshake
  modifyTimers fun t ↦ { t with handshake := some h }

/-- Starts the handshake retries afresh. -/
def armHandshake : Act Unit := do
  modifyTimers fun t ↦ { t with handshakeCount := 0 }
  rearmHandshake

/-- Honours a handshake wake-up: `none` when `h` is not the one held, `some true` when the SYN
is to be sent again (the wake-up is re-armed), `some false` when the retries are used up. -/
def handshakeTimeout (h : Handle) : Act (Option Bool) := do
  let s ← session
  if s.timers.handshake ≠ some h then return none
  modifyTimers fun t ↦ { t with handshake := none }
  if s.timers.handshakeCount ≥ s.info.config.maxRetransmissions then return some false
  modifyTimers fun t ↦ { t with handshakeCount := t.handshakeCount + 1 }
  rearmHandshake
  return some true

/-- Arms the keep-alive wake-up, when the peer asked for one, and starts an idle period. -/
def armKeepAlive : Act Unit := do
  match (← info).remote with
  | none => pure ()
  | some r =>
    if r.nullSegmentTimeout = 0 then pure ()
    else
      modifyTimers fun t ↦ { t with idle := true }
      let h ← schedule r.nullSegmentDelay .keepAlive
      modifyTimers fun t ↦ { t with keepAlive := some h }

/-- Withdraws the keep-alive wake-up. -/
def cancelKeepAlive : Act Unit := do
  cancel (← session).timers.keepAlive
  modifyTimers fun t ↦ { t with keepAlive := none }

/-- Honours a keep-alive wake-up: after an idle period a NUL is sent; the wake-up is re-armed. -/
def keepAliveFired (h : Handle) : Act Unit := do
  let s ← session
  if s.timers.keepAlive ≠ some h then return
  modifyTimers fun t ↦ { t with keepAlive := none }
  if s.timers.idle then
    transmit (Header.buildNul s.info.sendNext s.info.receiveAcked)
  armKeepAlive

/-- Withdraws the disconnect wake-up. -/
def cancelDisconnect : Act Unit := do
  cancel (← session).timers.disconnect
  modifyTimers fun t ↦ { t with disconnect := none }

/-- Arms the end of the disconnect grace period. -/
def armDisconnect : Act Unit := do
  cancelDisconnect
  let h ← schedule disconnectDelay .disconnect
  modifyTimers fun t ↦ { t with disconnect := some h }

/-- Drops every retransmission entry, withdrawing its wake-up; the window stays where it is. -/
def cancelRetransmissions : Act Unit := do
  match (← session).retransmit with
  | some q =>
    let q ← withSchedule fun s ↦ q.setBase s q.base
    modifySession fun s ↦ { s with retransmit := some q }
  | none => pure ()

/-- Withdraws every wake-up the session holds. -/
def cancelAllTimers : Act Unit := do
  cancelRetransmissions
  cancelHandshake
  cancelKeepAlive
  cancelDisconnect

end Act

end ReliableDatagram
