import ReliableDatagram.Exchange
import ReliableDatagram.Session.Host
/-!
# Conversations between two sessions

A conversation is two sessions, each with its own host, joined by a network that can lose,
duplicate and reorder datagrams but never alters one. Both sessions are created with usable
configurations and opened once, the first actively and the second actively or passively. From
then on anything may happen, in any order: either application offers a payload or closes, a
wake-up pending at either host is delivered, or a datagram that one side transmitted arrives at
the other, as often as the network likes.

Each `Side` keeps, besides its endpoint, what an observer of that side sees: the payloads its
session accepted for sending (those for which the offer was answered `ok`), the payloads it
handed to its application, and every datagram it put on the network. A transmitted datagram
stays on the network for good, so a later arrival may be any earlier transmission; with it the
side records what its session knew of the connection once the event that transmitted it was
over.
-/

namespace ReliableDatagram

/-- A datagram on the network, with what its sender recorded of the connection at the end of
the event in which it transmitted it. -/
structure Transmission where
  /-- The bytes on the wire. -/
  datagram : Bytes
  /-- The sender's connection information after the event. -/
  sender : Info
  deriving DecidableEq, Repr

/-- One side of a conversation: a session with its host, and what has been seen of it. -/
structure Side where
  /-- The session with its host. -/
  endpoint : Endpoint
  /-- The payloads the session accepted for sending, in the order they were offered. -/
  accepted : List Bytes := []
  /-- The payloads the session handed to its application, in order. -/
  delivered : List Bytes := []
  /-- Every datagram the session transmitted, oldest first. -/
  outbox : List Transmission := []
  deriving DecidableEq, Repr

namespace Side

/-- The payloads delivered among a list of effects. -/
def deliveries (es : List Effect) : List Bytes :=
  es.filterMap fun
    | .deliver p => some p
    | _ => none

/-- The side after an event that left its endpoint at `e`, in which the session accepted
`accepted` for sending. -/
def record (x : Side) (e : Endpoint) (accepted : List Bytes) : Side where
  endpoint := e
  accepted := x.accepted ++ accepted
  delivered := x.delivered ++ deliveries e.effects
  outbox := x.outbox ++ (Peer.transmissions e.effects).map fun d ↦ ⟨d, e.session.info⟩

/-- The side after its host hands the session one event. An offered payload counts as accepted
when the session answers `ok`. -/
def take (x : Side) : Event → Side
  | .send payload =>
    let (answer, e) := (Act.send payload).run (x.endpoint.prepare (.send payload))
    x.record e (if answer.toBool then [payload] else [])
  | ev => x.record (x.endpoint.handle ev) []

/-- A fresh side around a session. -/
def fresh (s : Session) : Side where
  endpoint := { session := s }

end Side

/-- The two parties of a conversation. -/
inductive Party where
  | a
  | b
  deriving DecidableEq, Repr

/-- The other party. -/
def Party.peer : Party → Party
  | .a => .b
  | .b => .a

/-- Two sides talking to each other. -/
structure Conversation where
  /-- The side that opened actively. -/
  a : Side
  /-- The side that opened actively or passively. -/
  b : Side
  deriving DecidableEq, Repr

namespace Conversation

/-- The side of a party. -/
def side (c : Conversation) : Party → Side
  | .a => c.a
  | .b => c.b

/-- The conversation with one party's side replaced. -/
def set (c : Conversation) : Party → Side → Conversation
  | .a, x => { c with a := x }
  | .b, x => { c with b := x }

/-- What may happen to a party once the conversation is under way: its application offers a
payload or closes, a wake-up pending at its host is delivered, or a datagram the other party
transmitted arrives. -/
def Allows (c : Conversation) (p : Party) : Event → Prop
  | .send _ | .close => True
  | .fire h t => ∃ a ∈ (c.side p).endpoint.schedule.pending, a.handle = h ∧ a.timer = t
  | .receive d => ∃ m ∈ (c.side p.peer).outbox, m.datagram = d
  | .connect _ | .wait _ | .invalidate => False

/-- One event at one party. -/
def step (c : Conversation) (p : Party) (ev : Event) : Conversation :=
  c.set p ((c.side p).take ev)

/-- Two fresh sessions, the first opened actively with initial number `x`, the second with
initial number `y`, actively when `bActive` is set and passively otherwise. -/
def opening (sa sb : Session) (x y : UInt16) (bActive : Bool) : Conversation where
  a := (Side.fresh sa).take (.connect x)
  b := (Side.fresh sb).take (if bActive then .connect y else .wait y)

/-- The conversations that can arise: an opening of two sessions created with usable
configurations, then any sequence of allowed events. -/
inductive Reachable : Conversation → Prop
  /-- Both sessions created and opened. -/
  | opened {ca cb : Config} {sa sb : Session} (ha : Session.new ca = .ok sa)
      (hb : Session.new cb = .ok sb) (x y : UInt16) (bActive : Bool) :
      Reachable (opening sa sb x y bActive)
  /-- One more event at one party. -/
  | step {c : Conversation} (p : Party) (ev : Event) :
      Reachable c → c.Allows p ev → Reachable (c.step p ev)

end Conversation

end ReliableDatagram
