import ReliableDatagram.Session.Events
/-!
# Exchanges between sessions

An exchange is a set of sessions, each with its own host, joined by an adversarial network:
every datagram a session transmits goes into that session's outbox, and nothing reaches a peer
until a step delivers it. A step may deliver a datagram to any session, any number of times,
or lose it; it may deliver any pending wake-up of any session, or a made-up one; and it may
carry out an intent of an application. The exchange therefore covers every interleaving of
loss, duplication, reordering and timer expiry.

A session can be dropped: its wake-ups are withdrawn and it takes no further part, though its
outbox can still be delivered. Datagrams taken for a dropped session are lost.

Each step starts with empty effect lists, so after a step every session's effects are the ones
that step produced.
-/

namespace ReliableDatagram

/-- A session of an exchange, with the datagrams it has transmitted and nobody has taken. -/
structure Peer where
  /-- The session with its host. -/
  endpoint : Endpoint
  /-- Whether the session has been dropped. -/
  dropped : Bool := false
  /-- Transmitted datagrams not yet taken, oldest first. -/
  outbox : List Bytes := []
  deriving DecidableEq, Repr

namespace Peer

/-- The datagrams among a list of effects. -/
def transmissions (es : List Effect) : List Bytes :=
  es.filterMap fun
    | .transmit d => some d
    | _ => none

/-- Runs an operation of the engine on the peer's session; what it transmits joins the outbox. -/
def run {α : Type} (p : Peer) (act : Act α) : α × Peer :=
  let (a, e) := act.run p.endpoint
  (a, { p with endpoint := e,
               outbox := p.outbox ++ transmissions (e.effects.drop p.endpoint.effects.length) })

/-- Withdraws a pending wake-up from the host and hands it to the session. -/
def fire (p : Peer) (h : Handle) (timer : Timer) : Peer :=
  let p := { p with endpoint := { p.endpoint with schedule := p.endpoint.schedule.cancel h } }
  (p.run (Act.timerFired h timer)).2

end Peer

/-- An intent, a network event or an observation, addressed to sessions by index. -/
inductive Command where
  /-- Open actively with the given initial sequence number. -/
  | connect (peer : Nat) (iss : UInt16)
  /-- Open passively with the given initial sequence number. -/
  | wait (peer : Nat) (iss : UInt16)
  /-- Close. -/
  | close (peer : Nat)
  /-- Abandon without telling the peer. -/
  | invalidate (peer : Nat)
  /-- Offer a payload. -/
  | send (peer : Nat) (payload : Bytes)
  /-- Hand a datagram to a session. -/
  | receive (peer : Nat) (datagram : Bytes)
  /-- Encode a header with a payload and hand the result to a session. -/
  | receiveSegment (peer : Nat) (header : Header) (payload : Bytes)
  /-- Deliver a wake-up: the given handle, or the oldest pending one for the timer. -/
  | fire (peer : Nat) (timer : Timer) (handle : Option Handle)
  /-- Take datagrams from an outbox (one by index, or all) and hand them to a session. -/
  | deliver (source target : Nat) (index : Option Nat) (keep : Bool)
  /-- Take datagrams from an outbox (one by index, or all, kept there when `keep` is set) and
  lose them. -/
  | lose (source : Nat) (index : Option Nat) (keep : Bool)
  /-- Look at a session's configurations and outbox. -/
  | inspect (peer : Nat)
  /-- Drop a session. -/
  | drop (peer : Nat)
  deriving DecidableEq, Repr

/-- What a step answers. -/
inductive Outcome where
  /-- The step has nothing to say. -/
  | done
  /-- The answer of an offered payload. -/
  | sent (result : Except SendError Unit)
  /-- A segment to be received could not be encoded; nothing was received. -/
  | unbuilt (error : BuildError)
  /-- The handle of the wake-up delivered. -/
  | fired (handle : Handle)
  /-- How many datagrams were taken. -/
  | taken (count : Nat)
  /-- A session's own and peer configurations and the length of its outbox. -/
  | inspected (config : Config) (remote : Option Config) (outbox : Nat)
  /-- No wake-up for that timer is pending. -/
  | noTimer
  /-- The outbox has no datagram at that index. -/
  | noDatagram
  /-- The session was dropped. -/
  | dropped

/-- Sessions joined by an adversarial network. -/
structure Exchange where
  /-- The sessions, by index. -/
  peers : List Peer
  deriving DecidableEq, Repr

namespace Exchange

/-- An exchange of fresh closed sessions, one per configuration; the first unusable
configuration is reported. -/
def new (configs : List Config) : Except ConfigError Exchange := do
  let sessions ← configs.mapM Session.new
  pure ⟨sessions.map fun s ↦ { endpoint := { session := s } }⟩

/-- The session at an index. -/
def peer? (x : Exchange) (i : Nat) : Option Peer :=
  x.peers[i]?

/-- Whether the session at an index has been dropped. -/
def isDropped (x : Exchange) (i : Nat) : Bool :=
  (x.peer? i).any (·.dropped)

/-- Replaces the session at an index. -/
def setPeer (x : Exchange) (i : Nat) (p : Peer) : Exchange :=
  ⟨x.peers.set i p⟩

/-- Runs an operation on a live session; a dropped or missing one answers `dropped`. -/
def act {α : Type} (x : Exchange) (i : Nat) (a : Act α) (answer : α → Outcome) :
    Outcome × Exchange :=
  match x.peer? i with
  | some p =>
    if p.dropped then (.dropped, x)
    else
      let (v, p) := p.run a
      (answer v, x.setPeer i p)
  | none => (.dropped, x)

/-- Hands datagrams to a session in order, answering how many it was handed. A dropped session
cannot take even one: handing it a datagram answers `dropped`, while handing it none is
harmless. -/
def handAll (x : Exchange) (i : Nat) (ds : List Bytes) : Outcome × Exchange :=
  match x.peer? i, ds with
  | _, [] => (.taken 0, x)
  | some p, _ =>
    if p.dropped then (.dropped, x)
    else (.taken ds.length, x.setPeer i (ds.foldl (fun p d ↦ (p.run (Act.receive d)).2) p))
  | none, _ => (.dropped, x)

/-- Takes datagrams from an outbox: the one at `index` or all of them, removing them unless
`keep` is set. -/
def take (x : Exchange) (i : Nat) (index : Option Nat) (keep : Bool) :
    Option (List Bytes × Exchange) :=
  match x.peer? i with
  | none => none
  | some p =>
    match index with
    | none => some (p.outbox, if keep then x else x.setPeer i { p with outbox := [] })
    | some k =>
      match p.outbox[k]? with
      | none => none
      | some d => some ([d], if keep then x else x.setPeer i { p with outbox := p.outbox.eraseIdx k })

/-- Forgets the effects of every session. -/
def clearEffects (x : Exchange) : Exchange :=
  ⟨x.peers.map fun p ↦ { p with endpoint := { p.endpoint with effects := [] } }⟩

/-- Carries out one command on an exchange whose effects have been cleared. -/
def apply (x : Exchange) : Command → Outcome × Exchange
  | .connect i iss => x.act i (Act.connect iss) fun _ ↦ .done
  | .wait i iss => x.act i (Act.wait iss) fun _ ↦ .done
  | .close i => x.act i Act.close fun _ ↦ .done
  | .invalidate i => x.act i Act.invalidate fun _ ↦ .done
  | .send i payload => x.act i (Act.send payload) .sent
  | .receive i d => x.act i (Act.receive d) fun _ ↦ .done
  | .receiveSegment i h payload =>
    match x.peer? i with
    | some p =>
      if p.dropped then (.dropped, x)
      else match h.encode payload with
        | .ok (_, d) => x.act i (Act.receive d) fun _ ↦ .done
        | .error e => (.unbuilt e, x)
    | none => (.dropped, x)
  | .fire i timer handle =>
    match x.peer? i with
    | some p =>
      if p.dropped then (.dropped, x)
      else
        let chosen := handle.orElse fun _ ↦ (p.endpoint.schedule.firstFor timer).map (·.handle)
        match chosen with
        | some h => (.fired h, x.setPeer i (p.fire h timer))
        | none => (.noTimer, x)
    | none => (.dropped, x)
  | .deliver src dst index keep =>
    match x.take src index keep with
    | some (ds, x) => x.handAll dst ds
    | none => (.noDatagram, x)
  | .lose src index keep =>
    match x.take src index keep with
    | some (ds, x) => (.taken ds.length, x)
    | none => (.noDatagram, x)
  | .inspect i =>
    match x.peer? i with
    | some p =>
      if p.dropped then (.dropped, x)
      else
        let info := p.endpoint.session.info
        (.inspected info.config info.remote p.outbox.length, x)
    | none => (.dropped, x)
  | .drop i =>
    match x.peer? i with
    | some p =>
      if p.dropped then (.dropped, x)
      else
        let (_, p) := p.run Act.destroy
        (.done, x.setPeer i { p with dropped := true })
    | none => (.dropped, x)

/-- Carries out one command; afterwards each session's effects are those of this step. -/
def step (x : Exchange) (c : Command) : Outcome × Exchange :=
  x.clearEffects.apply c

end Exchange

end ReliableDatagram
