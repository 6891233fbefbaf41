import ReliableDatagram.Proofs.Retries
/-!
# Keep-alives on idle periods

A session that opened actively, and whose peer asked for keep-alives with a timeout other than
zero (`Session.keepsAlive`), holds a keep-alive wake-up while connected. Arming the wake-up sets
the idle flag; each transmission clears it, and nothing else touches it while the session stays
connected (`TracksIdle`). When the wake-up is delivered the session sends a NUL if the flag is
still set, then arms the wake-up again and sets the flag afresh (`KeptAlive`).

So along a stay in `connected` the idle flag says whether nothing went out since the session
entered `connected` or since its last keep-alive wake-up, and the delivery of the wake-up sends
a NUL exactly then. A passive opener never holds a keep-alive wake-up, and a NUL reaching a
connected session is answered with one acknowledgment. The main statement is
`Endpoint.Reachable.keeps_alive_when_idle`.

Two shape decisions. Quietness is measured on what the run transmits (`quietAlong`, from the
effects after the report of entering `connected`), never read back from the idle flag, so the
statement checks the flag rather than restating it. And whether a session keeps its connection
alive is asked of it as it enters `connected`: the peer's configuration and the passive flag are
fixed from then on (`TracksIdle.keepsAlive`).
-/

namespace ReliableDatagram

namespace Session

/-- Whether a session keeps its connection alive: it opened actively, and its peer asked for
keep-alives with a timeout other than zero. -/
def keepsAlive (s : Session) : Bool :=
  !s.info.passive && match s.info.remote with
    | some r => r.nullSegmentTimeout != 0
    | none => false

theorem keepsAlive_iff {s : Session} :
    s.keepsAlive = true ↔
      s.info.passive = false ∧ ∃ r, s.info.remote = some r ∧ r.nullSegmentTimeout ≠ 0 := by
  unfold keepsAlive
  cases s.info.passive <;> cases s.info.remote <;> simp

end Session

namespace Peer

/-- The effects recorded after the report of entering `connected`. -/
def sinceConnected : List Effect → List Effect
  | [] => []
  | .entered .connected :: rest => rest
  | _ :: rest => sinceConnected rest

end Peer

namespace Segment

/-- `d` reads back as a NUL without payload, numbered `seq`, with ACK set and acknowledging
`ack`. -/
def NulAt (seq ack : UInt16) (d : Bytes) : Prop :=
  ∃ c, parse d = .ok ⟨.nul c, []⟩ ∧ c.flags.has .ack = true ∧ c.seq = seq ∧ c.ack = ack

/-- A NUL is its 12-byte header alone. -/
theorem length_of_parse_nul {d : Bytes} {c : Common} {payload : Bytes}
    (hp : parse d = .ok ⟨.nul c, payload⟩) : d.length = 12 := by
  obtain ⟨c', rest, pl, rfl, -, hcl, -, hrh, hpay⟩ := parse_eq_ok hp
  obtain ⟨-, -, -, -, hdrop, hpl⟩ := readHeader_inv hcl hrh
  -- a NUL announces no payload
  have hnil : payload.length = 0 := by
    dsimp only at hpay hpl
    rw [hpay, hdrop, ← hpl]
    rfl
  rw [length_of_parse hp, hnil]
  rfl

end Segment

namespace Header

theorem nulAt_datagram (seq ack : UInt16) : Segment.NulAt seq ack (buildNul seq ack).datagram := by
  refine ⟨_, (Built.nul seq ack).parse_datagram rfl, ?_, rfl, rfl⟩
  simp only [buildNul, fresh, common, Option.isSome_some]
  decide

end Header

namespace Endpoint

/-- Whether an event delivers the keep-alive wake-up the session holds. -/
def deliversKeepAlive (e : Endpoint) : Event → Bool
  | .fire hd .keepAlive => e.session.timers.keepAlive == some hd
  | _ => false

theorem deliversKeepAlive_eq_true {e : Endpoint} {ev : Event} :
    e.deliversKeepAlive ev = true ↔
      ∃ hd, ev = .fire hd .keepAlive ∧ e.session.timers.keepAlive = some hd := by
  constructor
  · intro hd
    cases ev with
    | fire hd' t =>
      cases t with
      | keepAlive => exact ⟨hd', rfl, by simpa [deliversKeepAlive] using hd⟩
      | _ => cases hd
    | _ => cases hd
  · rintro ⟨hd, rfl, hk⟩
    simp [deliversKeepAlive, hk]

/-- Whether nothing has gone out along a run since it started `quiet`: each delivery of the
keep-alive wake-up starts a quiet period afresh, and each event that transmits ends it. -/
def quietAlong : Endpoint → Bool → List Event → Bool
  | _, quiet, [] => quiet
  | e, quiet, ev :: evs => (e.handle ev).quietAlong
      (e.deliversKeepAlive ev || quiet && (Peer.transmissions (e.handle ev).effects).isEmpty) evs

/-- `e'` follows `e` within an event leaving the keep-alive alone: the effects only grow, the
keep-alive wake-up, the peer's configuration and the passive flag stay, and the idle flag is
cleared exactly by a transmission among the new effects. -/
structure TracksIdle (e e' : Endpoint) : Prop where
  grows : ∃ new, e'.effects = e.effects ++ new ∧
    e'.session.timers.idle = (e.session.timers.idle && (Peer.transmissions new).isEmpty)
  keepAlive : e'.session.timers.keepAlive = e.session.timers.keepAlive
  remote : e'.session.info.remote = e.session.info.remote
  passive : e'.session.info.passive = e.session.info.passive

namespace TracksIdle

variable {e e' e₁ e₂ e₃ : Endpoint}

theorem refl (e : Endpoint) : TracksIdle e e :=
  ⟨⟨[], by simp, by simp⟩, rfl, rfl, rfl⟩

theorem trans (h₁ : TracksIdle e₁ e₂) (h₂ : TracksIdle e₂ e₃) : TracksIdle e₁ e₃ := by
  obtain ⟨new₁, he₁, hi₁⟩ := h₁.grows
  obtain ⟨new₂, he₂, hi₂⟩ := h₂.grows
  refine ⟨⟨new₁ ++ new₂, by rw [he₂, he₁, List.append_assoc], ?_⟩, h₂.keepAlive.trans h₁.keepAlive,
    h₂.remote.trans h₁.remote, h₂.passive.trans h₁.passive⟩
  rw [hi₂, hi₁, Peer.transmissions_append, Bool.and_assoc]
  -- a run of transmissions is empty when both parts are
  cases Peer.transmissions new₁ <;> cases Peer.transmissions new₂ <;> rfl

/-- Whether a session keeps its connection alive depends only on what the idle books keep. -/
theorem keepsAlive (h : TracksIdle e e') : e'.session.keepsAlive = e.session.keepsAlive := by
  unfold Session.keepsAlive
  rw [h.passive, h.remote]

/-- A step that adds effects transmitting nothing and keeps the wake-ups and the peer's
configuration. -/
theorem of_silent {xs : List Effect} (he : e'.effects = e.effects ++ xs)
    (hx : Peer.transmissions xs = []) (ht : e'.session.timers = e.session.timers)
    (hr : e'.session.info.remote = e.session.info.remote)
    (hp : e'.session.info.passive = e.session.info.passive) : TracksIdle e e' :=
  ⟨⟨xs, he, by rw [ht, hx, List.isEmpty_nil, Bool.and_true]⟩, by rw [ht], hr, hp⟩

/-- A step that adds no effects and keeps the wake-ups and the peer's configuration. -/
theorem of_quiet (he : e'.effects = e.effects) (ht : e'.session.timers = e.session.timers)
    (hr : e'.session.info.remote = e.session.info.remote)
    (hp : e'.session.info.passive = e.session.info.passive) : TracksIdle e e' :=
  of_silent (he.trans (List.append_nil _).symm) rfl ht hr hp

/-- A step that transmits clears the idle flag. -/
theorem of_transmit {xs : List Effect} (he : e'.effects = e.effects ++ xs)
    (hx : Peer.transmissions xs ≠ [])
    (ht : e'.session.timers = { e.session.timers with idle := false })
    (hr : e'.session.info.remote = e.session.info.remote)
    (hp : e'.session.info.passive = e.session.info.passive) : TracksIdle e e' :=
  ⟨⟨xs, he, by rw [ht, List.isEmpty_eq_false_iff.2 hx, Bool.and_false]⟩, by rw [ht], hr, hp⟩

end TracksIdle

end Endpoint

/-! ### What the actions of a connected session do to the idle flag -/

namespace Act

open Endpoint

variable (e : Endpoint)

theorem tracksIdle_transmit (h : Header) : TracksIdle e ((transmit h).run e).2 := by
  rw [run_transmit]
  split
  · exact .of_transmit rfl (by simp) rfl rfl rfl
  · exact .refl e

theorem tracksIdle_sendAck : TracksIdle e (sendAck.run e).2 := by
  rw [run_sendAck]
  exact tracksIdle_transmit e _

theorem tracksIdle_acknowledge (ack : UInt16) : TracksIdle e ((acknowledge ack).run e).2 :=
  acknowledge_cases e ack (.refl e) fun _ _ _ _ _ ↦ .of_quiet rfl rfl rfl rfl

theorem tracksIdle_acknowledgeEach (acks : List UInt16) :
    TracksIdle e ((acknowledgeEach acks).run e).2 :=
  acknowledgeEach_induction e acks (.refl e) fun _ _ _ _ _ _ _ h ↦
    h.trans (.of_quiet rfl rfl rfl rfl)

theorem tracksIdle_drainHeld (fuel : Nat) : TracksIdle e ((drainHeld fuel).run e).2 :=
  drainHeld_induction e fuel (.refl e) (fun _ _ _ _ _ _ h ↦ h.trans (.of_silent rfl rfl rfl rfl rfl))
    fun _ _ _ _ h ↦ h.trans (.of_quiet rfl rfl rfl rfl)

theorem tracksIdle_deliver (seq : UInt16) (payload : Bytes) :
    TracksIdle e ((deliver seq payload).run e).2 := by
  rw [run_deliver]
  refine TracksIdle.trans ?_ (tracksIdle_drainHeld _ _)
  exact .of_silent rfl rfl rfl rfl rfl

theorem tracksIdle_segmentArrives (c : Common) (acks : List UInt16) (payload : Bytes) :
    TracksIdle e ((segmentArrives c acks payload).run e).2 := by
  rw [run_segmentArrives]
  split
  · dsimp only
    -- the acknowledgments first, then the payload, delivered or held, and the answer
    have h₁ : TracksIdle e (if c.flags.has .ack then ((acknowledge c.ack).run e).2 else e) := by
      split
      · exact tracksIdle_acknowledge e c.ack
      · exact .refl e
    generalize (if c.flags.has .ack then ((acknowledge c.ack).run e).2 else e) = e₁ at h₁ ⊢
    have h₂ : TracksIdle e (if acks.isEmpty then e₁ else ((acknowledgeEach acks).run e₁).2) := by
      split
      · exact h₁
      · exact h₁.trans (tracksIdle_acknowledgeEach e₁ acks)
    generalize (if acks.isEmpty then e₁ else ((acknowledgeEach acks).run e₁).2) = e₂ at h₂ ⊢
    split
    · exact h₂
    · refine TracksIdle.trans ?_ (tracksIdle_sendAck _)
      split
      · exact h₂.trans (tracksIdle_deliver e₂ _ _)
      · split
        · split
          · exact h₂.trans (.of_quiet rfl rfl rfl rfl)
          · exact h₂
        · exact h₂
  · exact tracksIdle_sendAck e

theorem tracksIdle_nulArrives (c : Common) : TracksIdle e ((nulArrives c).run e).2 := by
  rw [run_nulArrives]
  refine TracksIdle.trans ?_ (tracksIdle_sendAck _)
  split
  · exact tracksIdle_acknowledge e c.ack
  · exact .refl e

theorem tracksIdle_sendData (payload : Bytes) : TracksIdle e ((sendData payload).run e).2 := by
  rcases run_sendData e payload with
    ⟨err, hr⟩ | ⟨r, ring, queue, hdr, bytes, -, -, -, -, -, -, -, hr⟩
  · rw [hr]
    exact .refl e
  · rw [hr]
    exact .of_transmit (List.append_assoc _ _ _) (by simp [Peer.transmissions]) rfl rfl rfl

theorem tracksIdle_retransmitFired (seq : UInt16) (h : Handle) :
    TracksIdle e ((retransmitFired seq h).run e).2 :=
  retransmitFired_cases e seq h (.refl e) fun _ _ _ _ ↦
    ⟨.of_quiet rfl rfl rfl rfl, fun _ _ ↦ .of_transmit rfl (by simp) rfl rfl rfl⟩

/-! ### Answering a NUL -/

/-- Taking an acknowledgment releases sent segments only: the last number delivered stays. -/
theorem receiveAcked_acknowledge (ack : UInt16) :
    ((acknowledge ack).run e).2.session.info.receiveAcked = e.session.info.receiveAcked :=
  acknowledge_cases (motive := fun x ↦ x.session.info.receiveAcked = e.session.info.receiveAcked)
    e ack rfl fun _ _ _ _ _ ↦ rfl

/-- A session's acknowledgment always goes out: one datagram reading back as an acknowledgment,
plain or extended, numbered `sendNext` and acknowledging `receiveAcked`. -/
theorem sendAck_transmits : ∃ d, (sendAck.run e).2.effects = e.effects ++ [.transmit d] ∧
    Segment.AcksAt e.session.info.sendNext e.session.info.receiveAcked d := by
  rw [run_sendAck]
  split
  · refine ⟨_, by rw [run_transmit_built e (.ack _ _) rfl], ?_⟩
    exact ((Header.Built.ack _ _).readsAs rfl
      ((Header.Built.ack _ _).encode_nil rfl)).acksAt_buildAck
  · refine ⟨_, by rw [run_transmit_built e (.eack _ _ _) rfl], ?_⟩
    exact ((Header.Built.eack _ _ _).readsAs rfl
      ((Header.Built.eack _ _ _).encode_nil rfl)).acksAt_buildEack

/-- A NUL reaching a connected session is answered with exactly one acknowledgment, and the
last number delivered stays. -/
theorem answers_nulArrives (c : Common) :
    ∃ d, Peer.transmissions ((nulArrives c).run e).2.effects =
        Peer.transmissions e.effects ++ [d] ∧
      Segment.AcksAt ((nulArrives c).run e).2.session.info.sendNext
        ((nulArrives c).run e).2.session.info.receiveAcked d ∧
      ((nulArrives c).run e).2.session.info.receiveAcked = e.session.info.receiveAcked := by
  -- whether or not the NUL's acknowledgment counts, the session answers it unchanged otherwise
  have key : ∀ e₁ : Endpoint, Silent e e₁ →
      e₁.session.info.receiveAcked = e.session.info.receiveAcked →
      ∃ d, Peer.transmissions (sendAck.run e₁).2.effects = Peer.transmissions e.effects ++ [d] ∧
        Segment.AcksAt (sendAck.run e₁).2.session.info.sendNext
          (sendAck.run e₁).2.session.info.receiveAcked d ∧
        (sendAck.run e₁).2.session.info.receiveAcked = e.session.info.receiveAcked := by
    intro e₁ hs hr
    obtain ⟨d, hef, hd⟩ := sendAck_transmits e₁
    have hi := (spoken_sendAck e₁).info
    refine ⟨d, ?_, by rw [hi]; exact hd, by rw [hi]; exact hr⟩
    rw [hef, Peer.transmissions_append, hs]
    simp [Peer.transmissions]
  rw [run_nulArrives]
  split
  · exact key _ (silent_acknowledge e c.ack) (receiveAcked_acknowledge e c.ack)
  · exact key e (Silent.refl e) rfl

end Act

namespace Endpoint

open Act

variable {e : Endpoint}

/-! ### Events that keep a session connected -/

/-- Closing a connected session starts the grace period. -/
theorem state_close_of_connected (hst : e.session.state = .connected) :
    (Act.close.run e).2.session.state = .disconnecting := by
  unfold Act.close
  rw [run_bind, run_session]
  dsimp only
  rw [hst]
  dsimp only
  rw [run_bind, state_enter]

/-- A segment reaching a connected session either ends the connection or keeps the idle books:
the peer's SYN repeated and the acknowledgments are answered, another SYN and an RST end the
connection. -/
theorem tracksIdle_onSegment_connected (hst : e.session.state = .connected) (seg : Segment) :
    ((onSegment seg).run e).2.session.state ≠ .connected ∨
      TracksIdle e ((onSegment seg).run e).2 := by
  obtain ⟨header, payload⟩ := seg
  -- each handler's branches for the other states are not taken
  cases header with
  | syn c config =>
    exact onSyn_cases (motive := fun x ↦ x.session.state ≠ .connected ∨ TracksIdle e x) e c config
      (fun h ↦ by simp [hst] at h) (fun h ↦ by simp [hst] at h) (fun h ↦ by simp [hst] at h)
      (fun h ↦ by simp [hst] at h) (fun h ↦ by simp [hst] at h) (fun h ↦ by simp [hst] at h)
      (fun _ _ ↦ .inr (tracksIdle_sendAck e)) (fun _ _ ↦ .inl (by rw [state_enter]; decide))
      (fun h ↦ by simp [hst] at h)
  | rst c =>
    exact onRst_cases (motive := fun x ↦ x.session.state ≠ .connected ∨ TracksIdle e x) e
      (fun h ↦ by simp [hst] at h) (fun _ ↦ .inl (by rw [state_enter]; decide))
      (fun h ↦ by simp [hst] at h) (fun h ↦ by simp [hst] at h)
  | nul c =>
    exact onNul_cases (motive := fun x ↦ x.session.state ≠ .connected ∨ TracksIdle e x) e c
      (fun h ↦ by simp [hst] at h) (fun h ↦ by simp [hst] at h) (fun h ↦ by simp [hst] at h)
      (fun _ ↦ .inr (tracksIdle_nulArrives e c)) (fun h ↦ by simp [hst] at h)
  | ack c n =>
    exact onAck_cases (motive := fun x ↦ x.session.state ≠ .connected ∨ TracksIdle e x) e c payload
      (fun h ↦ by simp [hst] at h) (fun h ↦ by simp [hst] at h) (fun h ↦ by simp [hst] at h)
      (fun _ ↦ .inr (tracksIdle_segmentArrives e c [] payload)) (fun h ↦ by simp [hst] at h)
  | eack c n acks =>
    exact onEack_cases (motive := fun x ↦ x.session.state ≠ .connected ∨ TracksIdle e x) e c acks
      payload (fun h ↦ by simp [hst] at h) (fun h ↦ by simp [hst] at h)
      (fun _ ↦ .inr (tracksIdle_segmentArrives e c acks payload)) (fun h ↦ by simp [hst] at h)

/-- An event that keeps a reachable connected session connected, other than its keep-alive
wake-up, keeps the idle books. -/
theorem Reachable.tracksIdle_handle (h : e.Reachable) (hst : e.session.state = .connected)
    (ev : Event) (hka : e.deliversKeepAlive ev = false)
    (hc : (e.handle ev).session.state = .connected) :
    TracksIdle { e with effects := [] } (e.handle ev) := by
  have hm := h.moves_along_diagram ev
  cases ev with
  | connect iss =>
    rw [hm.ignored rfl (by rw [hst]; decide)]
    exact .refl _
  | wait iss =>
    rw [hm.ignored rfl (by rw [hst]; decide)]
    exact .refl _
  | close =>
    have hd : (e.handle .close).session.state = .disconnecting :=
      state_close_of_connected (e := { e with effects := [] }) hst
    exact absurd (hd.symm.trans hc) (by decide)
  | invalidate =>
    have hcl : (e.handle .invalidate).session.state = .closed := state_enter _ _
    exact absurd (hcl.symm.trans hc) (by decide)
  | send payload =>
    have hrun : e.handle (.send payload) = ((sendData payload).run { e with effects := [] }).2 := by
      simp only [Endpoint.handle, Event.act, prepare, Act.send, run_bind, run_session, hst,
        ↓reduceIte]
      rfl
    rw [hrun]
    exact tracksIdle_sendData _ _
  | receive d =>
    rcases handle_receive_cases e d with hdrop | ⟨seg, -, hrun⟩
    · rw [hdrop]
      exact .refl _
    · rw [hrun] at hc ⊢
      exact (tracksIdle_onSegment_connected (e := { e with effects := [] }) hst seg).resolve_left
        (not_not.2 hc)
  | fire hd t =>
    by_cases hlive : e.session.held t = some hd
    · -- a connected session holds retransmission and keep-alive wake-ups only
      have hallowed := h.invariant.allowed
      unfold Session.TimersAllowed at hallowed
      rw [hst] at hallowed
      obtain ⟨hh, hdis, -⟩ := hallowed
      cases t with
      | handshake => exact absurd (hh.symm.trans hlive) (by simp)
      | disconnect => exact absurd (hdis.symm.trans hlive) (by simp)
      | keepAlive =>
        have hk : e.session.timers.keepAlive = some hd := hlive
        simp [deliversKeepAlive, hk] at hka
      | retransmission seq =>
        rw [handle_fire_retransmission e hd seq, if_pos hst] at hc ⊢
        dsimp only at hc ⊢
        split at hc
        · rw [if_pos ‹_›]
          refine TracksIdle.trans ?_ (tracksIdle_retransmitFired _ _ _)
          exact .of_quiet rfl rfl rfl rfl
        · rw [state_enter] at hc
          exact absurd hc (by decide)
    · rw [h.owns_wakeups.stale hd t hlive]
      exact .refl _

/-! ### The keep-alive wake-up -/

/-- `e'` is `e` after its keep-alive wake-up: a NUL went out if the session was idle, and nothing
else; the session keeps its state and record, is idle again and holds a fresh keep-alive
wake-up, the only one pending, after the peer's timeout. -/
structure KeptAlive (e e' : Endpoint) : Prop where
  effects : e'.effects = if e.session.timers.idle then
    [.transmit (Header.buildNul e.session.info.sendNext e.session.info.receiveAcked).datagram]
    else []
  state : e'.session.state = e.session.state
  info : e'.session.info = e.session.info
  idle : e'.session.timers.idle = true
  held : e'.session.timers.keepAlive = some ⟨e.schedule.issued + 1⟩
  rearmed : ∀ r, e.session.info.remote = some r →
    e'.schedule.pending.filter (·.timer == .keepAlive) =
      [⟨⟨e.schedule.issued + 1⟩, .keepAlive, r.nullSegmentDelay⟩]

/-- The delivery of the keep-alive wake-up a connected session holds: the session forgets it,
sends a NUL if idle, and arms the wake-up again. -/
theorem handle_fire_keepAlive (hst : e.session.state = .connected) {hd : Handle}
    (hh : e.session.timers.keepAlive = some hd) :
    e.handle (.fire hd .keepAlive) =
      let e₁ : Endpoint := { e with
        schedule := e.schedule.deliver hd .keepAlive, effects := []
        session := { e.session with timers := { e.session.timers with keepAlive := none } } }
      (armKeepAlive.run (if e.session.timers.idle then
        ((transmit (Header.buildNul e.session.info.sendNext e.session.info.receiveAcked)).run e₁).2
        else e₁)).2 := by
  unfold Endpoint.handle Event.act timerFired
  rw [run_bind, run_session, session_prepare, hst]
  dsimp only
  rw [run_keepAliveFired, if_neg (by rw [session_prepare, hh]; exact not_not.2 rfl)]
  rfl

/-- The keep-alive wake-up of a reachable connected session that keeps its connection alive,
delivered, sends a NUL when the session is idle and arms itself again. -/
theorem Reachable.fire_keepAlive (h : e.Reachable) (hst : e.session.state = .connected)
    (hka : e.session.keepsAlive = true) {hd : Handle} (hh : e.session.timers.keepAlive = some hd) :
    KeptAlive e (e.handle (.fire hd .keepAlive)) := by
  obtain ⟨-, r, hr, hz⟩ := Session.keepsAlive_iff.1 hka
  -- every keep-alive wake-up pending is the one held, so delivering it leaves none
  have hall : ∀ a ∈ e.schedule.pending, a.timer = .keepAlive → a.handle = hd := by
    intro a ha hta
    have hmem : a.handle ∈ (e.schedule.pending.filter (·.timer == .keepAlive)).map Alarm.handle :=
      List.mem_map_of_mem (List.mem_filter.2 ⟨ha, by simp [hta]⟩)
    rw [h.owns_wakeups.pending_for .keepAlive] at hmem
    simpa [Session.held, hh] using hmem
  have hdel : (e.schedule.deliver hd .keepAlive).pending.filter (·.timer == .keepAlive) = [] := by
    rw [List.filter_eq_nil_iff]
    intro a ha
    simp only [Schedule.deliver, List.mem_filter] at ha
    by_cases hta : a.timer = .keepAlive
    · simp [hta, hall a ha.1 hta] at ha
    · simp [hta]
  rw [handle_fire_keepAlive hst hh]
  dsimp only
  cases hi : e.session.timers.idle
  · rw [if_neg Bool.false_ne_true, run_armKeepAlive, hr]
    dsimp only
    rw [if_neg hz]
    refine ⟨by simp [hi], rfl, rfl, rfl, rfl, fun r' hr' ↦ ?_⟩
    rw [hr, Option.some.injEq] at hr'
    subst hr'
    rw [Schedule.pending_add, List.filter_append, hdel]
    simp
  · rw [if_pos rfl, run_transmit_built _ (.nul _ _) rfl, run_armKeepAlive, hr]
    dsimp only
    rw [if_neg hz]
    refine ⟨by simp [hi], rfl, rfl, rfl, rfl, fun r' hr' ↦ ?_⟩
    rw [hr, Option.some.injEq] at hr'
    subst hr'
    rw [Schedule.pending_add, List.filter_append, hdel]
    simp

/-! ### Entering `connected` -/

/-- Arriving in `connected` opens the windows and arms the keep-alive: nothing is reported. -/
theorem effects_arrive_connected (e : Endpoint) :
    ((arrive .connected).run e).2.effects = e.effects := by
  rw [run_arrive_connected]
  split
  · rfl
  · rw [run_armKeepAlive]
    split
    · rfl
    · split <;> rfl

/-- Completing the handshake reports `connected`, and nothing else. -/
theorem effects_establish (hne : e.session.state ≠ .connected) :
    (establish.run e).2.effects = e.effects ++ [.entered .connected] := by
  rw [run_establish]
  dsimp only
  rw [run_enter, if_neg hne]
  dsimp only
  rw [effects_arrive_connected]
  exact congrArg (· ++ _) (Endpoint.sameTalk_leave _ _).2.2.2.2

/-- Completing the handshake arms the keep-alive of a session that keeps its connection alive,
and starts an idle period. -/
theorem armed_establish (hst : e.session.state = .initiating ∨ e.session.state = .connecting)
    (hka : (establish.run e).2.session.keepsAlive = true) :
    (establish.run e).2.session.timers.idle = true ∧
      (establish.run e).2.session.timers.keepAlive.isSome := by
  obtain ⟨hp, r, hr, hz⟩ := Session.keepsAlive_iff.1 hka
  rw [info_establish] at hp hr
  dsimp only at hp hr
  rw [run_establish]
  dsimp only
  rw [run_enter, if_neg (by rcases hst with hst | hst <;> rw [hst] <;> nofun)]
  dsimp only
  -- leaving a handshake state only withdraws the handshake wake-up
  rcases hst with hst | hst <;>
  · rw [hst, run_arrive_connected]
    simp only [run_leave_initiating, run_leave_connecting, run_cancelHandshake, hp,
      Bool.false_eq_true, ↓reduceIte, run_armKeepAlive, run_openWindows, hr, hz,
      Option.isSome_some, and_self]

/-- `e'` entered `connected` after the effects `pre`: it reported the entry, and if it keeps its
connection alive it holds a keep-alive wake-up and is idle unless it transmitted since. -/
def EnteredConnected (e' : Endpoint) (pre : List Effect) : Prop :=
  ∃ new, e'.effects = pre ++ .entered .connected :: new ∧
    (e'.session.keepsAlive = true →
      e'.session.timers.idle = (Peer.transmissions new).isEmpty ∧
        e'.session.timers.keepAlive.isSome)

/-- Completing the handshake, then an action that keeps the idle books. -/
theorem enteredConnected_establish
    (hst : e.session.state = .initiating ∨ e.session.state = .connecting)
    {f : Endpoint → Endpoint} (hf : ∀ e', TracksIdle e' (f e')) :
    EnteredConnected (f (establish.run e).2) e.effects := by
  have hne : e.session.state ≠ .connected := by
    rcases hst with hst | hst <;> rw [hst] <;> nofun
  have hef := effects_establish hne
  obtain ⟨new, hnew, hidle⟩ := (hf (establish.run e).2).grows
  refine ⟨new, by rw [hnew, hef, List.append_assoc]; rfl, fun hka ↦ ?_⟩
  rw [(hf _).keepsAlive] at hka
  obtain ⟨hi, hk⟩ := armed_establish hst hka
  rw [hidle, hi, Bool.true_and, (hf _).keepAlive]
  exact ⟨rfl, hk⟩

theorem state_reset_ne_connected : (reset.run e).2.session.state ≠ .connected := by
  rw [state_reset]
  split <;> nofun

/-- A segment that brings an initiating session into `connected` is the peer's SYN
acknowledging ours: the handshake completes and the session acknowledges. -/
theorem enteredConnected_onSegment_initiating (hst : e.session.state = .initiating)
    (seg : Segment) (hc : ((onSegment seg).run e).2.session.state = .connected) :
    EnteredConnected ((onSegment seg).run e).2 e.effects := by
  have hne : e.session.state ≠ .connected := by rw [hst]; decide
  revert hc
  obtain ⟨header, payload⟩ := seg
  -- each handler's branches for the other states are not taken
  cases header with
  | syn c config =>
    refine onSyn_cases (motive := fun x ↦ x.session.state = .connected → EnteredConnected x e.effects)
      e c config (fun _ hc ↦ absurd ((spoken_replyRst e c).state.symm.trans hc) hne)
      (fun _ _ _ hc ↦ absurd ((state_enter _ _).symm.trans hc) (by decide)) ?crossed
      (fun _ hc ↦ absurd hc state_reset_ne_connected) (fun h ↦ by simp [hst] at h)
      (fun h ↦ by simp [hst] at h) (fun h ↦ by simp [hst] at h) (fun h ↦ by simp [hst] at h)
      (fun h ↦ by simp [hst] at h)
    case crossed =>
      -- the peer's configuration is recorded, then the handshake completes
      intro _ _ _ _
      refine enteredConnected_establish ?_ (tracksIdle_sendAck ·)
      exact .inl hst
  | rst c =>
    exact onRst_cases (motive := fun x ↦ x.session.state = .connected → EnteredConnected x e.effects)
      e (fun _ hc ↦ absurd hc state_reset_ne_connected) (fun h ↦ by simp [hst] at h)
      (fun h ↦ by simp [hst] at h) (fun h ↦ by simp [hst] at h)
  | nul c =>
    exact onNul_cases (motive := fun x ↦ x.session.state = .connected → EnteredConnected x e.effects)
      e c (fun h ↦ by simp [hst] at h) (fun h ↦ by simp [hst] at h) (fun h ↦ by simp [hst] at h)
      (fun h ↦ by simp [hst] at h) (fun _ hc ↦ absurd hc hne)
  | ack c n =>
    exact onAck_cases (motive := fun x ↦ x.session.state = .connected → EnteredConnected x e.effects)
      e c payload (fun h ↦ by simp [hst] at h) (fun h ↦ by simp [hst] at h)
      (fun h ↦ by simp [hst] at h) (fun h ↦ by simp [hst] at h) (fun _ hc ↦ absurd hc hne)
  | eack c n acks =>
    exact onEack_cases (motive := fun x ↦ x.session.state = .connected → EnteredConnected x e.effects)
      e c acks payload (fun h ↦ by simp [hst] at h) (fun h ↦ by simp [hst] at h)
      (fun h ↦ by simp [hst] at h) (fun _ hc ↦ absurd hc hne)

/-- A segment that brings a connecting session into `connected` acknowledges its SYN: the
handshake completes, and the segment is then taken as in `connected`. -/
theorem enteredConnected_onSegment_connecting (hst : e.session.state = .connecting)
    (seg : Segment) (hc : ((onSegment seg).run e).2.session.state = .connected) :
    EnteredConnected ((onSegment seg).run e).2 e.effects := by
  have hne : e.session.state ≠ .connected := by rw [hst]; decide
  revert hc
  obtain ⟨header, payload⟩ := seg
  -- each handler's branches for the other states are not taken
  cases header with
  | syn c config =>
    exact onSyn_cases (motive := fun x ↦ x.session.state = .connected → EnteredConnected x e.effects)
      e c config (fun h ↦ by simp [hst] at h) (fun h ↦ by simp [hst] at h)
      (fun h ↦ by simp [hst] at h) (fun _ hc ↦ absurd hc state_reset_ne_connected)
      (fun _ _ _ _ ↦ enteredConnected_establish (.inr hst) (tracksIdle_sendAck ·))
      (fun _ _ _ hc ↦ absurd ((spoken_sendSyn e _).state.symm.trans hc) hne)
      (fun h ↦ by simp [hst] at h) (fun h ↦ by simp [hst] at h) (fun h ↦ by simp [hst] at h)
  | rst c =>
    exact onRst_cases (motive := fun x ↦ x.session.state = .connected → EnteredConnected x e.effects)
      e (fun _ hc ↦ absurd hc state_reset_ne_connected) (fun h ↦ by simp [hst] at h)
      (fun h ↦ by simp [hst] at h) (fun h ↦ by simp [hst] at h)
  | nul c =>
    exact onNul_cases (motive := fun x ↦ x.session.state = .connected → EnteredConnected x e.effects)
      e c (fun h ↦ by simp [hst] at h)
      (fun _ _ _ ↦ enteredConnected_establish (.inr hst) (tracksIdle_nulArrives · c))
      (fun _ _ hc ↦ absurd ((spoken_replyRst e c).state.symm.trans hc) hne)
      (fun h ↦ by simp [hst] at h) (fun h ↦ by simp [hst] at h)
  | ack c n =>
    exact onAck_cases (motive := fun x ↦ x.session.state = .connected → EnteredConnected x e.effects)
      e c payload (fun h ↦ by simp [hst] at h)
      (fun _ _ _ ↦ enteredConnected_establish (.inr hst) (tracksIdle_segmentArrives · c [] payload))
      (fun _ _ hc ↦ absurd ((spoken_replyRst e c).state.symm.trans hc) hne)
      (fun h ↦ by simp [hst] at h) (fun h ↦ by simp [hst] at h)
  | eack c n acks =>
    exact onEack_cases (motive := fun x ↦ x.session.state = .connected → EnteredConnected x e.effects)
      e c acks payload (fun h ↦ by simp [hst] at h) (fun _ hc ↦ absurd hc state_reset_ne_connected)
      (fun h ↦ by simp [hst] at h) (fun h ↦ by simp [hst] at h)

/-- An event that brings a reachable session into `connected` is a segment completing the
handshake: the session reports the entry first, and if it keeps its connection alive it holds
a keep-alive wake-up and is idle unless it transmitted after the report. -/
theorem Reachable.enteredConnected_handle (h : e.Reachable) (hnew : e.session.state ≠ .connected)
    (ev : Event) (hc : (e.handle ev).session.state = .connected) :
    EnteredConnected (e.handle ev) [] := by
  have hm := h.moves_along_diagram ev
  -- only `initiating` and `connecting` lead into `connected`
  have hst : e.session.state = .initiating ∨ e.session.state = .connecting := by
    have hmv := hm.move (by rw [hc]; exact Ne.symm hnew)
    rw [hc] at hmv
    generalize e.session.state = st at hmv
    cases hmv
    exacts [.inl rfl, .inr rfl]
  have hlate : e.session.state ≠ .connected ∧ e.session.state ≠ .disconnecting :=
    ⟨hnew, by rcases hst with hs | hs <;> rw [hs] <;> nofun⟩
  have hopen : e.session.state ≠ .closed := by rcases hst with hs | hs <;> rw [hs] <;> nofun
  -- an event that leaves the session as it was cannot bring it into `connected`
  have hstay : e.handle ev = { e with effects := [] } → EnteredConnected (e.handle ev) [] := by
    intro heq
    rw [heq] at hc
    exact absurd hc hnew
  cases ev with
  | receive d =>
    rcases handle_receive_cases e d with hdrop | ⟨seg, -, hrun⟩
    · exact hstay hdrop
    · rw [hrun] at hc ⊢
      rcases hst with hs | hs
      · exact enteredConnected_onSegment_initiating (e := { e with effects := [] }) hs seg hc
      · exact enteredConnected_onSegment_connecting (e := { e with effects := [] }) hs seg hc
  | fire hd t =>
    by_cases hlive : e.session.held t = some hd
    · -- the only wake-up a handshaking session holds is its handshake one
      have hallowed := h.invariant.allowed
      unfold Session.TimersAllowed at hallowed
      have hop : e.session.state.handshaking = true := State.handshaking_iff.2 hst
      obtain rfl : t = .handshake := by
        by_contra ht
        rcases hst with hs | hs <;> rw [hs] at hallowed <;>
          exact absurd ((hallowed t ht).symm.trans hlive) nofun
      obtain ⟨hretry, hgive⟩ := h.fire_handshake hop h.acked_connecting hlive
      by_cases hcount : e.session.timers.handshakeCount < e.session.info.config.maxRetransmissions
      · exact absurd ((hretry hcount).state.symm.trans hc) hnew
      · have hst' := (hgive (UInt8.not_lt.1 hcount)).state
        rw [hc] at hst'
        split at hst' <;> nomatch hst'
    · exact hstay (h.owns_wakeups.stale hd t hlive)
  | connect iss => exact hstay (hm.ignored rfl hopen)
  | wait iss => exact hstay (hm.ignored rfl hopen)
  | close =>
    have hcl : (e.handle .close).session.state = .closed :=
      state_close (e := { e with effects := [] }) hlate
    exact absurd (hcl.symm.trans hc) nofun
  | invalidate =>
    have hcl : (e.handle .invalidate).session.state = .closed := state_enter _ _
    exact absurd (hcl.symm.trans hc) nofun
  | send payload =>
    apply hstay
    simp only [Endpoint.handle, Event.act, prepare, Act.send, run_bind, run_session, hnew,
      ↓reduceIte, run_pure]

/-! ### A stay in `connected` -/

theorem KeepsState.state_foldl {evs : List Event} (hkeep : e.KeepsState evs) :
    (evs.foldl Endpoint.handle e).session.state = e.session.state := by
  induction evs generalizing e with
  | nil => rfl
  | cons ev evs ih => exact (ih hkeep.2).trans hkeep.1

/-- One event of a stay in `connected`, for a session that keeps its connection alive and holds
its keep-alive wake-up: the session still does both, and is idle after the event exactly when
the event delivered the wake-up, or the session was idle and the event transmitted nothing. -/
theorem Reachable.idle_step (h : e.Reachable) (hst : e.session.state = .connected)
    (hka : e.session.keepsAlive = true) (hheld : e.session.timers.keepAlive.isSome) (ev : Event)
    (hc : (e.handle ev).session.state = .connected) :
    (e.handle ev).session.keepsAlive = true ∧
      (e.handle ev).session.timers.idle = (e.deliversKeepAlive ev ||
        e.session.timers.idle && (Peer.transmissions (e.handle ev).effects).isEmpty) ∧
      (e.handle ev).session.timers.keepAlive.isSome := by
  cases hd : e.deliversKeepAlive ev with
  | true =>
    obtain ⟨hd, rfl, hk⟩ := deliversKeepAlive_eq_true.1 hd
    have hkept := h.fire_keepAlive hst hka hk
    refine ⟨?_, by rw [hkept.idle]; rfl, by rw [hkept.held]; rfl⟩
    unfold Session.keepsAlive
    rw [hkept.info]
    exact hka
  | false =>
    have ht := h.tracksIdle_handle hst ev hd hc
    obtain ⟨new, hnew, hidle⟩ := ht.grows
    refine ⟨ht.keepsAlive.trans hka, ?_, by rw [ht.keepAlive]; exact hheld⟩
    rw [hidle, hnew]
    rfl

/-- Along a stay in `connected` of a session that keeps its connection alive, the session holds
its keep-alive wake-up, and is idle exactly when the run has been quiet since it started, or
since the last delivery of the wake-up. -/
theorem Reachable.idle_along (h : e.Reachable) (hst : e.session.state = .connected)
    (hka : e.session.keepsAlive = true) (hheld : e.session.timers.keepAlive.isSome)
    {evs : List Event} (hkeep : e.KeepsState evs) :
    (evs.foldl Endpoint.handle e).session.keepsAlive = true ∧
      (evs.foldl Endpoint.handle e).session.timers.idle =
        e.quietAlong e.session.timers.idle evs ∧
      (evs.foldl Endpoint.handle e).session.timers.keepAlive.isSome := by
  induction evs generalizing e with
  | nil => exact ⟨hka, rfl, hheld⟩
  | cons ev evs ih =>
    obtain ⟨hkeep₁, hkeep'⟩ := hkeep
    have hc : (e.handle ev).session.state = .connected := hkeep₁.trans hst
    obtain ⟨hka', hidle, hheld'⟩ := h.idle_step hst hka hheld ev hc
    rw [List.foldl_cons, quietAlong, ← hidle]
    exact ih (h.handle ev) hc hka' hheld' hkeep'

/-- A passive opener never holds a keep-alive wake-up, so none is ever pending for it. -/
theorem Reachable.no_keepAlive_of_passive (h : e.Reachable) (hp : e.session.info.passive = true) :
    ∀ a ∈ e.schedule.pending, a.timer ≠ .keepAlive := by
  intro a ha hta
  have hheld := (h.owns_wakeups.pending_iff a.handle .keepAlive).1 ⟨a, ha, rfl, hta⟩
  have hallowed := h.invariant.allowed
  unfold Session.TimersAllowed at hallowed
  -- only `connected` may hold a keep-alive, and not for a passive opener
  have hnone : e.session.held .keepAlive = none := by
    cases hs : e.session.state with
    | closed | waiting =>
      rw [hs] at hallowed
      exact hallowed .keepAlive
    | initiating | connecting =>
      rw [hs] at hallowed
      exact hallowed .keepAlive nofun
    | connected =>
      rw [hs] at hallowed
      exact hallowed.2.2 hp
    | disconnecting =>
      rw [hs] at hallowed
      exact hallowed .keepAlive nofun
  exact absurd (hnone.symm.trans hheld) nofun

/-- A NUL reaching a reachable connected session is answered with exactly one acknowledgment,
plain or extended, with the session's numbers, and the last number delivered stays. -/
theorem Reachable.answers_nul (h : e.Reachable) (hst : e.session.state = .connected) {d : Bytes}
    {c : Common} {payload : Bytes} (hp : Segment.parse d = .ok ⟨.nul c, payload⟩) :
    ∃ d', Peer.transmissions (e.handle (.receive d)).effects = [d'] ∧
      Segment.AcksAt (e.handle (.receive d)).session.info.sendNext
        (e.handle (.receive d)).session.info.receiveAcked d' ∧
      (e.handle (.receive d)).session.info.receiveAcked = e.session.info.receiveAcked := by
  -- a NUL is 12 bytes long, within every usable segment size
  have hfit : d.length ≤ e.session.info.config.maxSegmentSize.toNat := by
    have hmin := Config.minSegmentSize_le h.invariant.config
    have h22 : Config.minSegmentSize.toNat = 22 := rfl
    rw [Segment.length_of_parse_nul hp]
    omega
  rw [handle_receive_of_parse hp hfit]
  unfold onSegment onNul
  rw [run_bind, run_session]
  dsimp only
  rw [hst]
  exact answers_nulArrives (e := { e with effects := [] }) c

/-- **Keep-alives go out exactly on idle periods.** Let an event bring a reachable session into
`connected`, and the events after it keep the session there. If the session keeps its connection
alive, exactly one keep-alive wake-up is pending; delivered, it sends a NUL numbered `sendNext`
and acknowledging `receiveAcked` when nothing went out since the session entered `connected` or
since the keep-alive wake-up before, and nothing otherwise, and leaves exactly one keep-alive
wake-up pending again, after the peer's timeout. A passive opener never has a keep-alive
wake-up pending; and a NUL reaching the session is answered with one acknowledgment and leaves
the last number delivered as it was. -/
theorem Reachable.keeps_alive_when_idle (h : e.Reachable) {ev : Event} {evs : List Event}
    (hnew : e.session.state ≠ .connected) (hin : (e.handle ev).session.state = .connected)
    (hkeep : (e.handle ev).KeepsState evs) :
    let e₀ := e.handle ev
    let e' := evs.foldl Endpoint.handle e₀
    let quiet := e₀.quietAlong (Peer.transmissions (Peer.sinceConnected e₀.effects)).isEmpty evs
    (e₀.session.keepsAlive = true →
      ∃ a, e'.schedule.pending.filter (·.timer == .keepAlive) = [a] ∧
        (∃ d, (e'.handle (.fire a.handle .keepAlive)).effects =
            (if quiet then [.transmit d] else []) ∧
          Segment.NulAt e'.session.info.sendNext e'.session.info.receiveAcked d) ∧
        ∃ r, e'.session.info.remote = some r ∧
          (e'.handle (.fire a.handle .keepAlive)).schedule.pending.filter
            (·.timer == .keepAlive) =
              [⟨⟨e'.schedule.issued + 1⟩, .keepAlive, r.nullSegmentDelay⟩]) ∧
    (∀ e₂ : Endpoint, e₂.Reachable → e₂.session.info.passive = true →
      ∀ a ∈ e₂.schedule.pending, a.timer ≠ .keepAlive) ∧
    (∀ d c payload, Segment.parse d = .ok ⟨.nul c, payload⟩ →
      ∃ d', Peer.transmissions (e'.handle (.receive d)).effects = [d'] ∧
        Segment.AcksAt (e'.handle (.receive d)).session.info.sendNext
          (e'.handle (.receive d)).session.info.receiveAcked d' ∧
        (e'.handle (.receive d)).session.info.receiveAcked = e'.session.info.receiveAcked) := by
  intro e₀ e' quiet
  have h₀ : e₀.Reachable := h.handle ev
  have h' : e'.Reachable := h₀.foldl evs
  have hst' : e'.session.state = .connected := hkeep.state_foldl.trans hin
  -- the event is the handshake completing: the quiet period starts after the report
  obtain ⟨new, hef, hentry⟩ := h.enteredConnected_handle hnew ev hin
  have hsince : Peer.sinceConnected e₀.effects = new := by
    rw [hef]
    rfl
  refine ⟨fun hka ↦ ?_, fun e₂ h₂ hp ↦ h₂.no_keepAlive_of_passive hp,
    fun d c payload hp ↦ h'.answers_nul hst' hp⟩
  obtain ⟨hidle₀, hheld₀⟩ := hentry hka
  obtain ⟨hka', hidle', hheld'⟩ := h₀.idle_along hin hka hheld₀ hkeep
  rw [hidle₀, ← hsince] at hidle'
  -- the wake-up the session holds is the only keep-alive one pending
  obtain ⟨hd, hhd⟩ := Option.isSome_iff_exists.1 hheld'
  have hfor := h'.owns_wakeups.pending_for .keepAlive
  rw [show e'.session.held .keepAlive = some hd from hhd] at hfor
  obtain ⟨a, hfa, hah⟩ := List.map_eq_singleton_iff.1 hfor
  have hheld : e'.session.timers.keepAlive = some a.handle := by
    rw [hah]
    exact hhd
  have hkept := h'.fire_keepAlive hst' hka' hheld
  obtain ⟨-, r, hr, -⟩ := Session.keepsAlive_iff.1 hka'
  refine ⟨a, hfa, ⟨_, ?_, Header.nulAt_datagram _ _⟩, r, hr, hkept.rearmed r hr⟩
  rw [hkept.effects, hidle']

/-- An active opener of the default configuration, taking its peer's SYN+ACK, which asks for
keep-alives every 2000 ms. -/
theorem connectZero_keeps_alive_when_idle :
    let e : Endpoint := ({ session := { info := { config := {} } } } : Endpoint).handle (.connect 0)
    let ev : Event := .receive
      [9, 1, 0, 22, 0, 100, 0, 0, 238, 202, 242, 249, 0, 0, 2, 88, 7, 208, 5, 120, 5, 32]
    e.Reachable ∧ e.session.state ≠ .connected ∧ (e.handle ev).session.state = .connected ∧
      (e.handle ev).KeepsState [] ∧
      let e₀ := e.handle ev
      let e' := ([] : List Event).foldl Endpoint.handle e₀
      let quiet := e₀.quietAlong (Peer.transmissions (Peer.sinceConnected e₀.effects)).isEmpty []
      (e₀.session.keepsAlive = true →
        ∃ a, e'.schedule.pending.filter (·.timer == .keepAlive) = [a] ∧
          (∃ d, (e'.handle (.fire a.handle .keepAlive)).effects =
              (if quiet then [.transmit d] else []) ∧
            Segment.NulAt e'.session.info.sendNext e'.session.info.receiveAcked d) ∧
          ∃ r, e'.session.info.remote = some r ∧
            (e'.handle (.fire a.handle .keepAlive)).schedule.pending.filter
              (·.timer == .keepAlive) =
                [⟨⟨e'.schedule.issued + 1⟩, .keepAlive, r.nullSegmentDelay⟩]) ∧
      (∀ e₂ : Endpoint, e₂.Reachable → e₂.session.info.passive = true →
        ∀ a ∈ e₂.schedule.pending, a.timer ≠ .keepAlive) ∧
      (∀ d c payload, Segment.parse d = .ok ⟨.nul c, payload⟩ →
        ∃ d', Peer.transmissions (e'.handle (.receive d)).effects = [d'] ∧
          Segment.AcksAt (e'.handle (.receive d)).session.info.sendNext
            (e'.handle (.receive d)).session.info.receiveAcked d' ∧
          (e'.handle (.receive d)).session.info.receiveAcked = e'.session.info.receiveAcked) :=
  have h : (({ session := { info := { config := {} } } } : Endpoint).handle
      (.connect 0)).Reachable :=
    .handle _ (.fresh (c := {}) (by decide))
  ⟨h, by decide, by decide, trivial,
    Reachable.keeps_alive_when_idle h (by decide) (by decide) trivial⟩

end Endpoint

end ReliableDatagram
