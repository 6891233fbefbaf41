import ReliableDatagram.Proofs.Flow
/-!
# What a side keeps through each event

A side receives only what its partner transmitted, and what its partner transmits is true to
the partner (`TrueTo`). This module shows that every reaction of a session keeps
`Endpoint.Talks` when each datagram it is handed is true to the partner, and that an event
leaves a side connected only for a reason (`ConnectReason`): the side was connected already,
or, while opening, it received a datagram that acknowledges something.

A datagram true to the partner decodes, if at all, to a segment the partner may have sent
(`Ledger.Genuine`): a SYN announces the partner's numbers, a payload is one the partner accepted
under the segment's number, and it fits the side's own segment size, since longer datagrams are
ignored.

Within an event the handlers are called on the endpoint as the event found it, so the facts of
the event's start are at hand: nothing transmitted yet (`Quiet`), and the state the event began
in. The handshake is completed only from an opening state, on a segment that carries ACK.
-/

namespace ReliableDatagram

/-- A segment as the partner may have sent it, once received: a SYN announces the partner's
initial number and configuration, a payload is one the partner accepted under the segment's
number, and the payload fits the side's own segment size. -/
structure Ledger.Genuine (l : Ledger) (seg : Segment) : Prop where
  syn : ∀ c cfg, seg.header = .syn c cfg → c.seq = l.peerIss ∧ cfg = l.peerConfig
  payload : seg.payload ≠ [] → Numbered l.peerIss l.peerAccepted seg.header.common.seq seg.payload
  fits : seg.payload.length ≤ l.config.maxSegmentSize.toNat

namespace Endpoint

/-- The reason an event may leave a side connected: it was connected already, or the event is
the arrival, while opening, of a datagram that acknowledges something. -/
def ConnectReason (e : Endpoint) (ev : Event) : Prop :=
  e.session.state = .connected ∨
    ∃ d, ev = .receive d ∧ Acknowledging d ∧ e.session.state.isOpening = true

variable {e : Endpoint} {l : Ledger} {t : Prop}

/-! ### Opening and giving up -/

/-- Accepting the partner's SYN while opening records the partner's initial number and
configuration. -/
theorem Talks.acceptRemote (h : e.Talks l t) (hop : e.session.state.isOpening = true)
    {c : Common} {config : Config} (hsyn : c.seq = l.peerIss ∧ config = l.peerConfig) :
    Talks { e with session := { e.session with info := { e.session.info with
      remote := some config, receiveInitial := c.seq, receiveAcked := c.seq } } } l t :=
  { h with
    answers := fun _ _ _ ↦ ⟨hsyn.1, by rw [hsyn.2]⟩
    engaged := fun _ ↦ ⟨hsyn.1, by rw [hsyn.2]⟩
    connecting := fun _ ↦ hsyn.1
    receiveAcked := fun hc ↦ by
      have hc' : e.session.state = .connected := hc
      simp [hc', State.isOpening] at hop }

/-- Having accepted the partner's SYN, an opening side moves on to connecting. -/
theorem Talks.acceptRemote_enter (h : e.Talks l t) (hop : e.session.state.isOpening = true)
    {c : Common} {config : Config} (hsyn : c.seq = l.peerIss ∧ config = l.peerConfig) :
    ((Act.enter .connecting).run { e with session := { e.session with info := { e.session.info with
      remote := some config, receiveInitial := c.seq, receiveAcked := c.seq } } }).2.Talks l t := by
  refine (h.acceptRemote hop hsyn).enter ?_
  exact ⟨h.quiet hop, ⟨hsyn.1, by rw [hsyn.2]⟩, hsyn.1⟩

/-- Giving up an opening, with nothing acknowledged to the partner in the event. -/
theorem Talks.reset (h : e.Talks l t) (hq : e.Quiet) (hop : e.session.state.isOpening = true) :
    (Act.reset.run e).2.Talks l t := by
  rw [Act.run_reset]
  refine h.enter ?_
  split
  · exact ⟨hq, h.quiet hop⟩
  · exact hq

/-- Refusing a segment while opening: an RST answers it and the attempt is given up. -/
theorem Talks.refuse (h : e.Talks l t) (hq : e.Quiet) (hop : e.session.state.isOpening = true)
    (c : Common) : (Act.reset.run ((Act.replyRst c).run e).2).2.Talks l t :=
  (h.replyRst c).reset (hq.replyRst c) (by rw [(Act.spoken_replyRst e c).state]; exact hop)

/-- Completing the handshake: an opening side that has accepted its partner's SYN and delivered
nothing past it connects, for the event's reason. -/
theorem Talks.establish (h : e.Talks l t) (hop : e.session.state.isOpening = true)
    (heng : e.session.info.receiveInitial = l.peerIss ∧ e.session.info.remote = some l.peerConfig)
    (hacked : e.session.info.receiveAcked = l.peerIss) (ht : t) :
    (Act.establish.run e).2.Flowing l t := by
  rw [Act.run_establish]
  refine ⟨Talks.enter ?_ ?_, Act.state_enter _ _⟩
  · exact { h with }
  refine ⟨heng, ?_, ht⟩
  -- nothing was delivered while opening, so the last delivered number is the partner's SYN
  obtain ⟨hd, -⟩ := h.quiet hop
  show e.session.info.receiveAcked =
    l.peerIss + (l.delivered ++ Side.deliveries e.effects).length.toUInt16
  rw [hd, hacked]
  simp

/-- Completing the handshake from connecting. -/
theorem Talks.establish_connecting (h : e.Talks l t) (hst : e.session.state = .connecting)
    (ht : t) : (Act.establish.run e).2.Flowing l t :=
  h.establish (by rw [hst]; rfl) (h.engaged (by rw [hst]; rfl)) (h.connecting hst) ht

/-! ### Segments -/

/-- Reaction to the partner's SYN. -/
theorem Talks.onSyn (h : e.Talks l t) (hq : e.Quiet) {c : Common} {config : Config}
    (hsyn : c.seq = l.peerIss ∧ config = l.peerConfig)
    (ht : c.flags.has .ack = true → e.session.state.isOpening = true → t) :
    ((Act.onSyn c config).run e).2.Talks l t := by
  -- a SYN is taken or refused only in the opening states
  have hop : e.session.state = .waiting ∨ e.session.state = .initiating ∨
      e.session.state = .connecting → e.session.state.isOpening = true := by
    rintro (hs | hs | hs) <;> rw [hs] <;> rfl
  refine Act.onSyn_cases (motive := fun x ↦ x.Talks l t) e c config (fun _ ↦ h.replyRst c)
    (fun hs _ _ ↦ h.acceptRemote_enter (hop (hs.imp_right .inl)) hsyn) ?crossed
    (fun hs ↦ h.refuse hq (hop hs) c) ?established
    (fun hst _ _ ↦ h.sendSyn _ fun _ ↦ h.engaged (by rw [hst]; rfl))
    (fun hst _ ↦ (Flowing.sendAck ⟨h, hst⟩).talks)
    (fun _ _ ↦ (h.replyRst c).enter (hq.replyRst c)) (fun _ ↦ h)
  case crossed =>
    intro hst hs _
    -- a SYN that acknowledges ours completes the handshake at once
    have hop' := hop (.inr (.inl hst))
    have h₁ := h.acceptRemote hop' hsyn
    exact (h₁.establish hop' ⟨hsyn.1, by rw [hsyn.2]⟩ hsyn.1
      (ht (Bool.and_eq_true_iff.1 hs).1 hop')).sendAck.talks
  case established =>
    intro hst _ hs
    exact (h.establish_connecting hst
      (ht (Bool.and_eq_true_iff.1 hs).1 (hop (.inr (.inr hst))))).sendAck.talks

/-- Reaction to an RST. -/
theorem Talks.onRst (h : e.Talks l t) (hq : e.Quiet) : (Act.onRst.run e).2.Talks l t :=
  Act.onRst_cases (motive := fun x ↦ x.Talks l t) e
    (fun hs ↦ h.reset hq (by rcases hs with hs | hs <;> rw [hs] <;> rfl))
    (fun _ ↦ h.sendRst.enter trivial) (fun _ ↦ h.enter hq) (fun _ ↦ h)

/-- Reaction to a NUL. -/
theorem Talks.onNul (h : e.Talks l t) {c : Common}
    (ht : c.flags.has .ack = true → e.session.state.isOpening = true → t) :
    ((Act.onNul c).run e).2.Talks l t :=
  Act.onNul_cases (motive := fun x ↦ x.Talks l t) e c (fun _ ↦ h.replyRst c)
    (fun hst hs ↦ ((h.establish_connecting hst
      (ht (Bool.and_eq_true_iff.1 hs).1 (by rw [hst]; rfl))).nulArrives c).talks)
    (fun _ _ ↦ h.replyRst c) (fun hst ↦ (Flowing.nulArrives ⟨h, hst⟩ c).talks) (fun _ ↦ h)

/-- Reaction to an extended acknowledgment carrying a payload the partner accepted. -/
theorem Talks.onEack (h : e.Talks l t) (hq : e.Quiet) {c : Common} (acks : List UInt16)
    {payload : Bytes} (hn : payload ≠ [] → Numbered l.peerIss l.peerAccepted c.seq payload)
    (hlen : payload.length ≤ l.config.maxSegmentSize.toNat) :
    ((Act.onEack c acks payload).run e).2.Talks l t :=
  Act.onEack_cases (motive := fun x ↦ x.Talks l t) e c acks payload (fun _ ↦ h.replyRst c)
    (fun hst ↦ h.refuse hq (by rw [hst]; rfl) c)
    (fun hst ↦ (Flowing.segmentArrives ⟨h, hst⟩ c acks hn hlen).talks) (fun _ ↦ h)

/-- Reaction to a plain acknowledgment carrying a payload the partner accepted. -/
theorem Talks.onAck (h : e.Talks l t) {c : Common} {payload : Bytes}
    (hn : payload ≠ [] → Numbered l.peerIss l.peerAccepted c.seq payload)
    (hlen : payload.length ≤ l.config.maxSegmentSize.toNat)
    (ht : c.flags.has .ack = true → e.session.state.isOpening = true → t) :
    ((Act.onAck c payload).run e).2.Talks l t :=
  Act.onAck_cases (motive := fun x ↦ x.Talks l t) e c payload (fun _ ↦ h.replyRst c)
    (fun hst hs ↦ ((h.establish_connecting hst
      (ht (Bool.and_eq_true_iff.1 hs).1 (by rw [hst]; rfl))).segmentArrives c [] hn hlen).talks)
    (fun _ _ ↦ h.replyRst c) (fun hst ↦ (Flowing.segmentArrives ⟨h, hst⟩ c [] hn hlen).talks)
    (fun _ ↦ h)

/-- Reaction to a segment the partner may have sent; the handshake completes only on one that
carries ACK and is no RST. -/
theorem Talks.onSegment (h : e.Talks l t) (hq : e.Quiet) {seg : Segment} (hg : l.Genuine seg)
    (ht : seg.header.kind ≠ .rst → seg.header.common.flags.has .ack = true →
      e.session.state.isOpening = true → t) :
    ((Act.onSegment seg).run e).2.Talks l t := by
  unfold Act.onSegment
  split
  · rename_i c config hh
    refine h.onSyn hq (hg.syn c config hh) fun ha hop ↦ ht (by rw [hh]; simp [Header.kind]) ?_ hop
    rw [hh]
    exact ha
  · exact h.onRst hq
  · rename_i c hh
    refine h.onNul fun ha hop ↦ ht (by rw [hh]; simp [Header.kind]) ?_ hop
    rw [hh]
    exact ha
  · rename_i c n hh
    have hc : seg.header.common = c := by rw [hh]; rfl
    refine h.onAck (fun hne ↦ hc ▸ hg.payload hne) hg.fits fun ha hop ↦
      ht (by rw [hh]; simp [Header.kind]) (hc ▸ ha) hop
  · rename_i c n acks hh
    have hc : seg.header.common = c := by rw [hh]; rfl
    exact h.onEack hq acks (fun hne ↦ hc ▸ hg.payload hne) hg.fits

/-- Reaction to a datagram true to the partner. -/
theorem Talks.receive (h : e.Talks l t) (hq : e.Quiet) {d : Bytes}
    (hd : TrueTo l.peerIss l.peerConfig l.peerAccepted d)
    (ht : Acknowledging d → e.session.state.isOpening = true → t) :
    ((Act.receive d).run e).2.Talks l t := by
  refine Act.receive_cases (motive := fun x ↦ x.Talks l t) e d h fun seg hl hseg ↦ ?_
  obtain ⟨hsyn, hpay⟩ := hd seg hseg
  -- a datagram the side takes fits its segment size, and so does its payload
  have hfits : seg.payload.length ≤ l.config.maxSegmentSize.toNat := by
    rw [← h.config]
    exact (Segment.length_payload_le hseg).trans hl
  exact h.onSegment hq ⟨hsyn, hpay, hfits⟩ fun hk ha ↦ ht ⟨seg, hseg, hk, ha⟩

/-! ### Wake-ups -/

/-- A handshake wake-up while opening: an unknown handle changes nothing, used-up retries give
the attempt up, and otherwise the SYN goes out again with the wake-up re-armed. -/
theorem Talks.handshakeFired (h : e.Talks l t) (hq : e.Quiet) (hop : e.session.state.isOpening = true)
    (hd : Handle) {k : Act Unit} (hk : ∀ e', SameTalk e e' → (k.run e').2.Talks l t) :
    ((do
      match ← Act.handshakeTimeout hd with
      | some true => k
      | some false => Act.reset
      | none => pure ()).run e).2.Talks l t := by
  -- the handshake wake-up's bookkeeping is not what a side is judged by
  have hsame : ∀ count : UInt8, SameTalk e { e with session := { e.session with
      timers := { e.session.timers with handshake := none, handshakeCount := count } } } :=
    fun _ ↦ ⟨rfl, rfl, rfl, rfl, rfl⟩
  simp only [Act.run_bind, Act.run_handshakeTimeout]
  by_cases hh : e.session.timers.handshake = some hd
  · by_cases hc : e.session.timers.handshakeCount ≥ e.session.info.config.maxRetransmissions
    · simp only [hh, hc, ne_eq, not_true_eq_false, ↓reduceIte]
      exact (h.of_same (hsame _)).reset (hq.of_same (hsame _)) hop
    · simp only [hh, hc, ne_eq, not_true_eq_false, ↓reduceIte]
      refine hk _ ((hsame (e.session.timers.handshakeCount + 1)).trans ?_)
      rw [Act.run_rearmHandshake]
      exact ⟨rfl, rfl, rfl, rfl, rfl⟩
  · simp only [hh, ne_eq, not_false_eq_true, ↓reduceIte]
    exact h

/-- Reaction to a wake-up. -/
theorem Talks.timerFired (h : e.Talks l t) (hq : e.Quiet) (hd : Handle) (timer : Timer) :
    ((Act.timerFired hd timer).run e).2.Talks l t := by
  refine Act.timerFired_cases (motive := fun x ↦ x.Talks l t) e hd timer h
    (fun seq hst _ _ ↦ (Flowing.retransmitFired ⟨h, hst⟩ seq hd).talks)
    (fun seq hst _ _ ↦ (Flowing.retransmitFired ⟨h, hst⟩ seq hd).talks.sendRst.enter trivial)
    (fun hst _ ↦ (Flowing.keepAliveFired ⟨h, hst⟩ hd).talks)
    (fun hst _ ↦ h.handshakeFired hq (by rw [hst]; rfl) hd fun e' hs ↦
      (h.of_same hs).sendSyn none fun hn ↦ by cases hn) ?retriedSynAck ?finished
  case retriedSynAck =>
    intro hst _
    refine h.handshakeFired hq (by rw [hst]; rfl) hd fun e' hs ↦ ?_
    rw [Act.run_bind, Act.run_info]
    exact (h.of_same hs).sendSyn _ fun _ ↦ by
      rw [hs.2.1]
      exact h.engaged (by rw [hst]; rfl)
  case finished =>
    intro _ _ _
    refine Talks.enter ?_ ?_
    · exact h.of_same ⟨rfl, rfl, rfl, rfl, rfl⟩
    · exact hq.of_same ⟨rfl, rfl, rfl, rfl, rfl⟩

/-! ### Intents -/

/-- Closing: a connected side says so and waits out the grace period; any other gives up
without acknowledging anything. -/
theorem Talks.close (h : e.Talks l t) (hq : e.Quiet) : (Act.close.run e).2.Talks l t :=
  Act.close_cases (motive := fun x ↦ x.Talks l t) e h (fun _ ↦ h.enter hq)
    (fun _ ↦ (h.transmit (Header.formed_buildRst _ _ _) (fun c cfg hc ↦ by cases hc)
      (fun hk _ ↦ absurd rfl hk)).enter (hq.transmit (Header.formed_buildRst _ _ _) (.inl rfl)))
    (fun _ ↦ h.sendRst.enter hq.sendRst) (fun _ ↦ h.sendRst.enter trivial)

/-- Abandoning the connection acknowledges nothing. -/
theorem Talks.invalidate (h : e.Talks l t) (hq : e.Quiet) : (Act.invalidate.run e).2.Talks l t :=
  h.enter hq

/-- Offering a payload: when the session accepts it, the ledger gains it. -/
theorem Talks.send (h : e.Talks l t) (p : Bytes) :
    ((Act.send p).run e).2.Talks (if ((Act.send p).run e).1.toBool then l.accept p else l) t := by
  unfold Act.send
  rw [Act.run_bind, Act.run_session]
  by_cases hst : e.session.state = .connected
  · simp only [hst, ↓reduceIte]
    exact (Flowing.sendData ⟨h, hst⟩ p).talks
  · simp only [hst, ↓reduceIte]
    exact h

/-- Starting an attempt from a closed side with no windows and nothing produced, with the
ledger's numbers and nothing accepted or delivered yet. -/
theorem Talks.start (hst : e.session.state = .closed) (hs : e.session.sendRing = none)
    (hr : e.session.receiveRing = none) (hnil : e.effects = [])
    (hc : e.session.info.config = l.config) (hacc : l.accepted = []) (hdl : l.delivered = [])
    {iss : UInt16} (hiss : l.iss = iss) {passive : Bool} (hp : l.passive = passive) :
    ((Act.start iss passive).run e).2.Talks l t := by
  rw [Act.run_start]
  have hclosed : ∀ st : State, st = .closed → st ≠ .connected ∧ st.isOpening = false ∧
      st.isEngaged = false ∧ st ≠ .connecting := by
    rintro _ rfl
    exact ⟨by decide, rfl, rfl, by decide⟩
  obtain ⟨hnc, hno, hne, hncg⟩ := hclosed _ hst
  exact { config := hc, sendInitial := hiss.symm, passive := hp.symm
          sendNext := by
            show iss + 1 = l.iss + 1 + l.accepted.length.toUInt16
            rw [hacc, hiss]
            simp
          stored := fun ring hring ↦ by
            change e.session.sendRing = some ring at hring
            rw [hs] at hring
            cases hring
          held := fun ring hring ↦ by
            change e.session.receiveRing = some ring at hring
            rw [hr] at hring
            cases hring
          true_to := fun d hd ↦ by
            change d ∈ Peer.transmissions e.effects at hd
            rw [hnil] at hd
            cases hd
          answers := fun d hd ↦ by
            change d ∈ Peer.transmissions e.effects at hd
            rw [hnil] at hd
            cases hd
          quiet := fun hop ↦ absurd hop (by rw [hno]; decide)
          engaged := fun hop ↦ absurd hop (by rw [hne]; decide)
          connecting := fun hc' ↦ absurd hc' hncg
          receiveAcked := fun hc' ↦ absurd hc' hnc
          ordered := fun _ ↦ by
            show l.delivered ++ Side.deliveries e.effects <+: l.peerAccepted
            rw [hdl, hnil]
            exact List.nil_prefix
          entry := fun hc' ↦ absurd hc' hnc }

/-- Opening actively from a fresh closed side. -/
theorem Talks.connect (hst : e.session.state = .closed) (hs : e.session.sendRing = none)
    (hr : e.session.receiveRing = none) (hnil : e.effects = [])
    (hc : e.session.info.config = l.config) (hacc : l.accepted = []) (hdl : l.delivered = [])
    (hp : l.passive = false) : ((Act.connect l.iss).run e).2.Talks l t := by
  unfold Act.connect
  simp only [Act.run_bind]
  rw [Act.run_session, if_pos hst]
  simp only [Act.run_bind]
  refine (Talks.start hst hs hr hnil hc hacc hdl rfl hp).enter ?_
  show l.delivered ++ Side.deliveries e.effects = [] ∧ l.accepted = []
  rw [hdl, hnil, hacc]
  exact ⟨rfl, rfl⟩

/-- Opening passively from a fresh closed side. -/
theorem Talks.wait (hst : e.session.state = .closed) (hs : e.session.sendRing = none)
    (hr : e.session.receiveRing = none) (hnil : e.effects = [])
    (hc : e.session.info.config = l.config) (hacc : l.accepted = []) (hdl : l.delivered = [])
    (hp : l.passive = true) : ((Act.wait l.iss).run e).2.Talks l t := by
  unfold Act.wait
  simp only [Act.run_bind]
  rw [Act.run_session, if_pos hst]
  simp only [Act.run_bind]
  refine (Talks.start hst hs hr hnil hc hacc hdl rfl hp).enter ⟨quiet_of_effects_nil hnil, ?_⟩
  show l.delivered ++ Side.deliveries e.effects = [] ∧ l.accepted = []
  rw [hdl, hnil, hacc]
  exact ⟨rfl, rfl⟩

/-! ### Events -/

/-- A side may be held to another reason for connecting as long as it is one for its current
state. -/
theorem Talks.retrigger {t' : Prop} (h : e.Talks l t) (ht : e.session.state = .connected → t') :
    e.Talks l t' :=
  { h with entry := ht }

/-- The endpoint as an event finds it keeps what the side keeps, for the event's reason. -/
theorem Talks.prepare (h : Talks { e with effects := [] } l True) (ev : Event) :
    (e.prepare ev).Talks l (e.ConnectReason ev) := by
  have hs : SameTalk { e with effects := [] } (e.prepare ev) := by
    unfold Endpoint.prepare
    split <;> exact ⟨rfl, rfl, rfl, rfl, rfl⟩
  exact (h.of_same hs).retrigger fun hc ↦ .inl (hs.1.symm.trans hc)

theorem quiet_prepare (e : Endpoint) (ev : Event) : (e.prepare ev).Quiet := by
  apply quiet_of_effects_nil
  unfold Endpoint.prepare
  split <;> rfl

end Endpoint

end ReliableDatagram
