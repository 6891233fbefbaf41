import ReliableDatagram.Config
import ReliableDatagram.Timer
import ReliableDatagram.Window.SegmentBuffer
import ReliableDatagram.Window.Retransmit
/-!
# Sessions: state and surroundings

A session is one end of a reliable connection. It moves through six states: `closed`,
`waiting` (passively open, expecting a SYN), `initiating` (SYN sent), `connecting` (SYN
received and answered), `connected` and `disconnecting` (a grace period after a reset).

While connected it keeps three windows: the send ring of segments awaiting acknowledgment,
the retransmission queue with one wake-up per such segment, and the receive ring of segments
that arrived ahead of the next expected one.

A session lives in an `Endpoint`: the session together with what it asks of its host, namely
the wake-up `schedule` and the list of `effects` it has produced (datagrams to transmit,
payloads to deliver, sends accepted, states entered). Every operation of the engine is an
`Act`, a state transformer of the endpoint, so that a run is a plain function from events to
endpoints and its outputs are data.
-/

namespace ReliableDatagram

/-- The states of a session. -/
inductive State where
  | closed
  | waiting
  | initiating
  | connecting
  | connected
  | disconnecting
  deriving DecidableEq, Repr

namespace State

/-- The state's name as rendered. -/
def label : State → String
  | closed => "Closed"
  | waiting => "Waiting"
  | initiating => "Initiating"
  | connecting => "Connecting"
  | connected => "Connected"
  | disconnecting => "Disconnecting"

end State

/-- What a session knows about its connection. -/
structure Info where
  /-- This side's configuration. -/
  config : Config
  /-- The peer's configuration, once its SYN has been accepted. -/
  remote : Option Config := none
  /-- The sequence number of this side's SYN. -/
  sendInitial : UInt16 := 0
  /-- The sequence number the next data segment will carry. -/
  sendNext : UInt16 := 0
  /-- The oldest sequence number not yet acknowledged by the peer. -/
  sendUnacked : UInt16 := 0
  /-- The sequence number of the peer's SYN. -/
  receiveInitial : UInt16 := 0
  /-- The last sequence number delivered in order. -/
  receiveAcked : UInt16 := 0
  /-- Whether the session was opened passively; a reset then returns it to `waiting`. -/
  passive : Bool := false
  deriving DecidableEq, Repr

/-- The wake-ups a session holds. -/
structure Timers where
  /-- The pending handshake wake-up. -/
  handshake : Option Handle := none
  /-- How often the SYN has been sent again in this handshake. -/
  handshakeCount : UInt8 := 0
  /-- The pending keep-alive wake-up. -/
  keepAlive : Option Handle := none
  /-- The pending end of the disconnect grace period. -/
  disconnect : Option Handle := none
  /-- Whether nothing has been transmitted since the keep-alive wake-up was armed. -/
  idle : Bool := false
  deriving DecidableEq, Repr

/-- One end of a connection. -/
structure Session where
  /-- The current state. -/
  state : State := .closed
  /-- Sequence numbers and configurations. -/
  info : Info
  /-- Segments sent and not yet acknowledged, while connected. -/
  sendRing : Option SegmentBuffer := none
  /-- Segments received ahead of the next expected one, while connected. -/
  receiveRing : Option SegmentBuffer := none
  /-- Retransmission wake-ups of the segments in the send ring, while connected. -/
  retransmit : Option RetransmitQueue := none
  /-- The wake-ups held. -/
  timers : Timers := {}
  deriving DecidableEq, Repr

/-- Why a payload was not accepted for sending. -/
inductive SendError where
  /-- The session is not connected. -/
  | notConnected
  /-- Empty payloads are not sent. -/
  | emptyPayload
  /-- The payload of `len` bytes exceeds the `max` the peer accepts. -/
  | payloadTooLarge (len max : Nat)
  /-- The send window is full. -/
  | windowFull
  deriving DecidableEq, Repr

namespace SendError

/-- The name of the error's kind. -/
def name : SendError → String
  | notConnected => "NotConnected"
  | emptyPayload => "EmptyPayload"
  | payloadTooLarge .. => "PayloadTooLarge"
  | windowFull => "WindowFull"

/-- The sentence that explains the error. -/
def message : SendError → String
  | notConnected => "The session is not connected"
  | emptyPayload => "Cannot send an empty payload"
  | payloadTooLarge len max =>
    "A payload of " ++ toString len ++ " bytes exceeds the peer's limit of " ++ toString max
  | windowFull => "Too many segments are awaiting acknowledgment"

end SendError

/-- What a session asks of its host, in the order it asks. -/
inductive Effect where
  /-- Send a datagram to the peer. -/
  | transmit (datagram : Bytes)
  /-- Hand a payload, received in order, to the application. -/
  | deliver (payload : Bytes)
  /-- A payload was accepted for sending under this sequence number. -/
  | accepted (seq : UInt16)
  /-- The session entered a state. -/
  | entered (state : State)
  deriving DecidableEq, Repr

/-- A session with its wake-up schedule and the effects it has produced so far. -/
structure Endpoint where
  /-- The session. -/
  session : Session
  /-- The host's pending wake-ups. -/
  schedule : Schedule := {}
  /-- The effects produced, oldest first. -/
  effects : List Effect := []
  deriving DecidableEq, Repr

/-- An operation of the engine. -/
abbrev Act := StateM Endpoint

namespace Act

/-- The current session. -/
def session : Act Session :=
  return (← get).session

/-- The current connection information. -/
def info : Act Info :=
  return (← get).session.info

/-- Changes the session. -/
def modifySession (f : Session → Session) : Act Unit :=
  modify fun e ↦ { e with session := f e.session }

/-- Changes the connection information. -/
def modifyInfo (f : Info → Info) : Act Unit :=
  modifySession fun s ↦ { s with info := f s.info }

/-- Changes the held wake-ups. -/
def modifyTimers (f : Timers → Timers) : Act Unit :=
  modifySession fun s ↦ { s with timers := f s.timers }

/-- Records an effect. -/
def emit (x : Effect) : Act Unit :=
  modify fun e ↦ { e with effects := e.effects ++ [x] }

/-- Asks for a wake-up after `delay` milliseconds. -/
def schedule (delay : Nat) (timer : Timer) : Act Handle :=
  modifyGet fun e ↦
    let (h, s) := e.schedule.add delay timer
    (h, { e with schedule := s })

/-- Withdraws a wake-up, if one is held. -/
def cancel (h : Option Handle) : Act Unit :=
  modify fun e ↦ { e with schedule := e.schedule.cancel? h }

/-- Runs a change of the schedule that also yields a value. -/
def withSchedule {α : Type} (f : Schedule → α × Schedule) : Act α :=
  modifyGet fun e ↦
    let (a, s) := f e.schedule
    (a, { e with schedule := s })

end Act

namespace Session

/-- A fresh closed session with configuration `config`, if the configuration is usable. -/
def new (config : Config) : Except ConfigError Session := do
  config.validate
  pure { info := { config } }

/-- Whether a payload could be accepted now: connected, with `sendNext` inside the send
window. -/
def canSend (s : Session) : Bool :=
  s.state == .connected && (s.sendRing.map (·.hasSlot s.info.sendNext)).getD false

end Session

end ReliableDatagram
