import ReliableDatagram.Session.Events
/-!
# A session driven by its host

The engine is driven from outside: the application states its intents, the network hands over
datagrams, and the scheduler delivers the wake-ups the session asked for. An `Event` is one of
these, and `Endpoint.handle` is the session's reaction to it together with the host's own part.

The host's scheduler is the one the engine assumes: it hands out fresh handles, forgets a
wake-up when the session cancels it, and forgets a pending wake-up just before delivering it.
A delivery may also be stale (the wake-up was cancelled or delivered before) or carry a handle
the session never held; the scheduler then has nothing to forget, and the session receives it
all the same.

Each event starts with no effects recorded, so after `handle` the endpoint's effects are
exactly those the event produced. `Endpoint.Reachable` collects the endpoints a host can reach:
a fresh session with a usable configuration, then any sequence of events.
-/

namespace ReliableDatagram

/-- What the host of a session can do to it. -/
inductive Event where
  /-- Open actively with the given initial sequence number. -/
  | connect (iss : UInt16)
  /-- Open passively with the given initial sequence number. -/
  | wait (iss : UInt16)
  /-- Close, telling the peer. -/
  | close
  /-- Abandon the connection without telling the peer. -/
  | invalidate
  /-- Offer a payload for sending. -/
  | send (payload : Bytes)
  /-- Hand over a datagram from the network. -/
  | receive (datagram : Bytes)
  /-- Deliver the wake-up with this handle, armed for this timer. -/
  | fire (handle : Handle) (timer : Timer)
  deriving DecidableEq, Repr

namespace Schedule

/-- Forgets wake-up `h` for `timer` as it is delivered; a wake-up that is not pending leaves the
schedule as it is. -/
def deliver (s : Schedule) (h : Handle) (timer : Timer) : Schedule :=
  { s with pending := s.pending.filter fun a ↦ !(a.handle == h && a.timer == timer) }

end Schedule

namespace Event

/-- The engine's reaction to an event; the answer to an offered payload is dropped. -/
def act : Event → Act Unit
  | connect iss => Act.connect iss
  | wait iss => Act.wait iss
  | close => Act.close
  | invalidate => Act.invalidate
  | send payload => do
    let _ ← Act.send payload
  | receive datagram => Act.receive datagram
  | fire h timer => Act.timerFired h timer

end Event

namespace Endpoint

/-- The endpoint as an event finds it: no effects recorded yet, and a delivered wake-up already
forgotten by the scheduler. -/
def prepare (e : Endpoint) : Event → Endpoint
  | .fire h timer => { e with schedule := e.schedule.deliver h timer, effects := [] }
  | _ => { e with effects := [] }

/-- The endpoint after the host hands it one event. -/
def handle (e : Endpoint) (ev : Event) : Endpoint :=
  (ev.act.run (e.prepare ev)).2

/-- The endpoints a host can reach: a fresh session with a usable configuration, then any
sequence of events. -/
inductive Reachable : Endpoint → Prop
  /-- A fresh session, with nothing scheduled and nothing produced. -/
  | fresh {c : Config} {s : Session} : Session.new c = .ok s → Reachable { session := s }
  /-- One more event. -/
  | handle {e : Endpoint} (ev : Event) : Reachable e → Reachable (e.handle ev)

end Endpoint

end ReliableDatagram
