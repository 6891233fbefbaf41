import ReliableDatagram.Proofs.SendingHalf
import ReliableDatagram.Proofs.Agreement
import ReliableDatagram.Proofs.PeerSize
/-!
# No response storms

Every event makes a session transmit at most one datagram (`Endpoint.utters_handle`). This module
shows that, between two sessions of a conversation, answers cannot chase each other for long
either: while only datagrams arrive (no intent and no wake-up at either side, a *quiet* span),
every chain of datagrams in which each one was transmitted while the other side took the one
before has at most five answers (`Conversation.no_response_storms`).

The argument is a ranking, as for a terminating transition system. A datagram on its way to a
side is given a `level`: the rank of what it decodes to (an RST 0, an acknowledgment without
payload numbered with its sender's next number 1, a SYN acknowledging the peer's 2, a bare SYN 3,
anything else 2), plus the number of sides that are still live (neither disconnecting nor
closed). Quiet events never raise a level, and an answer always has a lower level than the
datagram it answers (`Conversation.level_lt_of_answers`):

* an RST answers an RST only from a connected side, which goes to `disconnecting`, so the count
  of live sides drops;
* a SYN acknowledging the peer's answers only a bare SYN, since the peer's SYNs acknowledge
  this side's own initial number (`Side.Restrained`);
* an acknowledgment answers an acknowledgment without payload only when that one lies outside
  the receive window, and a side's next number always lies inside its engaged partner's window
  (`Conversation.Reachable.sendNext_inWindow`).

The last fact is the two-party one. A connected side's window start lies at most as far past its
SYN as its partner has delivered, because it only moves past acknowledgments the partner sent,
which acknowledge no more than the partner had delivered; and its send window holds at most the
partner's window size. So a side runs ahead of its partner's deliveries by at most the partner's
window (`Side.Restrained`), while the partner's window starts right after its deliveries. This
holds while each side has accepted fewer than `2^16` payloads, so that numbers do not come round.
-/

namespace ReliableDatagram

namespace State

/-- A session is live until it starts disconnecting or closes. -/
def isLive : State → Bool
  | .closed | .disconnecting => false
  | _ => true

end State

/-! ### A finished session stays finished while datagrams arrive -/

namespace Act

open Endpoint

variable {e : Endpoint}

/-- An RST in reply leaves a closed session closed. -/
theorem isLive_replyRst (hst : e.session.state = .closed) (c : Common) :
    ((replyRst c).run e).2.session.state.isLive = false := by
  rw [(unmoved_replyRst e c).state, hst]
  rfl

/-- What a handler does while closed or disconnecting leaves the session there. -/
theorem isLive_onSegment (h : e.session.state.isLive = false) (seg : Segment) :
    ((onSegment seg).run e).2.session.state.isLive = false := by
  have hfin : e.session.state = .closed ∨ e.session.state = .disconnecting := by
    revert h
    cases e.session.state <;> simp [State.isLive]
  -- every handler but the RST's replies with an RST while closed and keeps quiet while
  -- disconnecting; the RST's closes a disconnecting session
  unfold onSegment
  cases seg.header with
  | syn c config =>
    unfold onSyn
    rw [run_bind, run_session]
    rcases hfin with hst | hst <;> simp only [hst]
    · exact isLive_replyRst hst c
    · exact h
  | rst =>
    unfold onRst
    rw [run_bind, run_session]
    rcases hfin with hst | hst <;> simp only [hst]
    · exact h
    · rw [state_enter]
      rfl
  | nul c =>
    unfold onNul
    rw [run_bind, run_session]
    rcases hfin with hst | hst <;> simp only [hst]
    · exact isLive_replyRst hst c
    · exact h
  | ack c =>
    unfold onAck
    rw [run_bind, run_session]
    rcases hfin with hst | hst <;> simp only [hst]
    · exact isLive_replyRst hst c
    · exact h
  | eack c =>
    unfold onEack
    rw [run_bind, run_session]
    rcases hfin with hst | hst <;> simp only [hst]
    · exact isLive_replyRst hst c
    · exact h

/-- A session disconnecting or closed stays so whatever arrives. -/
theorem isLive_receive (h : e.session.state.isLive = false) (datagram : Bytes) :
    ((receive datagram).run e).2.session.state.isLive = false :=
  receive_cases (motive := fun x ↦ x.session.state.isLive = false) e datagram h
    fun seg _ _ ↦ isLive_onSegment h seg

/-- A connected session takes an acknowledgment without payload that lies in its receive window
in silence. -/
theorem silent_receive_of_inWindow (hst : e.session.state = .connected) {datagram : Bytes}
    {seg : Segment} (hseg : Segment.parse datagram = .ok seg)
    (hk : seg.header.kind = .ack ∨ seg.header.kind = .eack) (hp : seg.payload = [])
    (hw : Seq.inWindow seg.header.common.seq (e.session.info.receiveAcked + 1)
      e.session.info.config.maxOutstanding.toUInt16 = true) :
    Silent e ((receive datagram).run e).2 := by
  -- what `segmentArrives` says to an acknowledgment without payload lies outside the window
  have hquiet : ∀ (c : Common) (acks : List UInt16), c = seg.header.common →
      Silent e ((segmentArrives c acks seg.payload).run e).2 := by
    rintro c acks rfl
    rcases utters_segmentArrives e _ acks seg.payload with h | ⟨_, ⟨-, hout⟩, -⟩
    · exact h
    · rw [hout hp] at hw
      cases hw
  unfold receive
  simp only [run_bind, run_info]
  by_cases hl : datagram.length > e.session.info.config.maxSegmentSize.toNat
  · simp only [hl, ↓reduceIte]
    exact Silent.refl e
  simp only [hl, ↓reduceIte, hseg]
  unfold onSegment
  cases hh : seg.header with
  | syn | rst | nul =>
    rw [hh] at hk
    rcases hk with h | h <;> cases h
  | ack c _ =>
    unfold onAck
    rw [run_bind, run_session]
    simp only [hst]
    exact hquiet c [] (by rw [hh]; rfl)
  | eack c _ acks =>
    unfold onEack
    rw [run_bind, run_session]
    simp only [hst]
    exact hquiet c acks (by rw [hh]; rfl)

end Act

/-! ### How far a datagram acknowledges -/

/-- Datagram `d` acknowledges at most `n` payloads past the initial number `iss`: when it decodes
to a segment other than an RST that carries ACK, the acknowledgment number is `iss + j` for some
`j ≤ n`, and `iss` itself on a SYN. -/
def AcksWithin (iss : UInt16) (n : Nat) (d : Bytes) : Prop :=
  ∀ seg, Segment.parse d = .ok seg → seg.header.kind ≠ .rst →
    seg.header.common.flags.has .ack = true →
    (seg.header.kind = .syn → seg.header.common.ack = iss) ∧
      ∃ j ≤ n, seg.header.common.ack = iss + j.toUInt16

namespace AcksWithin

variable {iss : UInt16} {n n' : Nat} {d : Bytes}

theorem mono (h : AcksWithin iss n d) (hn : n ≤ n') : AcksWithin iss n' d := by
  intro seg hseg hk hack
  obtain ⟨hsyn, j, hj, ha⟩ := h seg hseg hk hack
  exact ⟨hsyn, j, hj.trans hn, ha⟩

theorem nil : AcksWithin iss n [] := by
  intro seg hseg
  cases hseg

end AcksWithin

/-- What a well-formed buffer reads for any number, when every segment in use has property `P`
and so has no bytes at all. -/
theorem SegmentBuffer.Keeps.getD_slot {P : Bytes → Prop} {r : SegmentBuffer} (hr : r.WellFormed)
    (h : r.Keeps fun _ b ↦ P b) (hnil : P []) (q : UInt16) : P ((r.slot q).getD []) := by
  cases hu : r.isInUse q with
  | true =>
    obtain ⟨b, hb, hp⟩ := h q hu
    rw [hb]
    exact hp
  | false =>
    rw [hr.slot_getD_of_not_isInUse hu]
    exact hnil

/-- Between two numbers `j ≤ A` past the same base, with `A` below `2^16`, the forward distance
is `A - j`. -/
theorem Seq.toNat_offset_add_add (b : UInt16) {A j : Nat} (hj : j ≤ A) (hA : A < 2 ^ 16) :
    (Seq.offset (b + A.toUInt16) (b + j.toUInt16)).toNat = A - j := by
  have hsplit : b + A.toUInt16 = b + j.toUInt16 + (A - j).toUInt16 := by
    rw [UInt16.add_assoc, Nat.toUInt16_eq, Nat.toUInt16_eq, Nat.toUInt16_eq, ← UInt16.ofNat_add,
      Nat.add_sub_cancel' hj]
  rw [hsplit]
  exact Seq.offset_add_left _ _ (by omega)

/-! ### A side's event and what it keeps -/

namespace Side

variable {x y : Side}

/-- A side after an event records its endpoint's reaction. -/
theorem take_eq_record (x : Side) (ev : Event) :
    ∃ acc, x.take ev = x.record (x.endpoint.handle ev) acc := by
  cases ev with
  | send payload =>
    refine ⟨if ((Act.send payload).run (x.endpoint.prepare (.send payload))).1.toBool then [payload]
      else [], ?_⟩
    have h : x.take (.send payload) =
        x.record ((Act.send payload).run (x.endpoint.prepare (.send payload))).2
          (if ((Act.send payload).run (x.endpoint.prepare (.send payload))).1.toBool then [payload]
          else []) := rfl
    rw [h]
    simp only [Endpoint.handle, Event.act, Act.run_bind, Act.run_pure]
  | _ => exact ⟨[], rfl⟩

/-- A side's session reacts to an event as its host's endpoint does. -/
@[simp] theorem take_endpoint (x : Side) (ev : Event) :
    (x.take ev).endpoint = x.endpoint.handle ev := by
  obtain ⟨acc, h⟩ := take_eq_record x ev
  rw [h, record_endpoint]

theorem delivered_length_le_take (x : Side) (ev : Event) :
    x.delivered.length ≤ (x.take ev).delivered.length := by
  obtain ⟨acc, h⟩ := take_eq_record x ev
  rw [h, record_delivered, List.length_append]
  exact Nat.le_add_right _ _

/-- A side accepts a payload only while connected, and stays so. -/
theorem accepted_take (x : Side) (ev : Event) :
    (x.take ev).accepted = x.accepted ∨ (x.take ev).endpoint.session.state = .connected := by
  cases ev with
  | send payload =>
    by_cases hst : x.endpoint.session.state = .connected
    · right
      rw [take_endpoint]
      simp only [Endpoint.handle, Event.act, Act.run_bind, Act.run_pure]
      unfold Act.send
      simp only [Act.run_bind, Act.run_session, Endpoint.session_prepare, hst, ↓reduceIte]
      rw [(Act.unmoved_sendData _ payload).state, Endpoint.session_prepare, hst]
    · left
      -- an offer while not connected is refused
      have hrefuse : ((Act.send payload).run (x.endpoint.prepare (.send payload))).1 =
          .error .notConnected := by
        unfold Act.send
        simp only [Act.run_bind, Act.run_session, Endpoint.session_prepare, hst, ↓reduceIte]
        rfl
      show x.accepted ++ (if ((Act.send payload).run (x.endpoint.prepare (.send payload))).1.toBool
        then [payload] else []) = x.accepted
      rw [hrefuse]
      simp [Except.toBool]
  | _ => exact .inl (List.append_nil _)

/-! ### What soundness says of the numbers -/

/-- An engaged side's last delivered number counts its deliveries past its partner's SYN. -/
theorem Sound.receiveAcked_eq (h : x.Sound y) (heng : x.endpoint.session.state.isEngaged = true) :
    x.endpoint.session.info.receiveAcked =
      y.endpoint.session.info.sendInitial + x.delivered.length.toUInt16 := by
  cases hst : x.endpoint.session.state with
  | connecting =>
    -- a connecting side has delivered nothing yet
    have hnil := (h.talks.quiet (by show x.endpoint.session.state.isOpening = true; rw [hst]; rfl)).1
    simp only [Side.deliveries_nil, List.append_nil] at hnil
    have hra := h.talks.connecting hst
    simp only [ledger] at hnil hra
    rw [hra, hnil]
    simp
  | connected =>
    have hra := h.talks.receiveAcked hst
    simpa [ledger] using hra
  | closed | waiting | initiating | disconnecting =>
    rw [hst] at heng
    cases heng

theorem Sound.sendNext_eq (h : x.Sound y) :
    x.endpoint.session.info.sendNext =
      x.endpoint.session.info.sendInitial + 1 + x.accepted.length.toUInt16 :=
  h.talks.sendNext

theorem Sound.remote_eq (h : x.Sound y) (heng : x.endpoint.session.state.isEngaged = true) :
    x.endpoint.session.info.remote = some y.endpoint.session.info.config :=
  (h.talks.engaged heng).2

/-- A datagram that vouches for a sound side acknowledges at most what it delivered. -/
theorem Sound.acksWithin_of_vouches (h : x.Sound y) {d : Bytes}
    (hv : Endpoint.Vouches x.endpoint d) :
    AcksWithin y.endpoint.session.info.sendInitial x.delivered.length d := by
  intro seg hseg hk hack
  obtain ⟨ha, hst⟩ := hv seg hseg hk hack
  by_cases hsyn : seg.header.kind = .syn
  · rw [if_pos hsyn] at hst
    have hra : x.endpoint.session.info.receiveAcked = y.endpoint.session.info.sendInitial :=
      h.talks.connecting hst
    exact ⟨fun _ ↦ ha.trans hra, 0, Nat.zero_le _, by rw [ha, hra]; simp⟩
  · rw [if_neg hsyn] at hst
    exact ⟨fun h ↦ absurd h hsyn, _, le_rfl,
      ha.trans (h.receiveAcked_eq (by rw [hst]; rfl))⟩

/-! ### How far a side runs ahead -/

/-- What side `x` keeps towards its partner `y` of how far it acknowledges and how far it runs
ahead of the partner. -/
structure Restrained (x y : Side) : Prop where
  /-- Every datagram the side transmitted acknowledges at most what it has delivered. -/
  outbox : ∀ m ∈ x.outbox,
    AcksWithin y.endpoint.session.info.sendInitial x.delivered.length m.datagram
  /-- So does every segment a connected side holds for retransmission. -/
  ring : x.endpoint.session.state = .connected → ∀ r, x.endpoint.session.sendRing = some r →
    r.Keeps fun _ b ↦ AcksWithin y.endpoint.session.info.sendInitial x.delivered.length b
  /-- A connected side's window starts at most as far past its SYN as its partner delivered. -/
  unacked : x.endpoint.session.state = .connected → ∃ j ≤ y.delivered.length,
    x.endpoint.session.info.sendUnacked = x.endpoint.session.info.sendInitial + 1 + j.toUInt16
  /-- The side has accepted at most a window of its partner's more than its partner delivered. -/
  ahead : x.accepted.length ≤
    y.delivered.length + y.endpoint.session.info.config.maxOutstanding.toNat

/-- A side keeps what it keeps while its partner keeps its numbers and delivers more. -/
theorem Restrained.partner {y' : Side} (h : x.Restrained y)
    (hiss : y'.endpoint.session.info.sendInitial = y.endpoint.session.info.sendInitial)
    (hcfg : y'.endpoint.session.info.config = y.endpoint.session.info.config)
    (hdel : y.delivered.length ≤ y'.delivered.length) : x.Restrained y' where
  outbox := by
    rw [hiss]
    exact h.outbox
  ring := by
    rw [hiss]
    exact h.ring
  unacked hc := by
    obtain ⟨j, hj, hu⟩ := h.unacked hc
    exact ⟨j, hj.trans hdel, hu⟩
  ahead := by
    have := h.ahead
    rw [hcfg]
    omega

section Take

variable {ev : Event}

/-- Every datagram a side transmits in an event acknowledges at most what it has delivered once
the event is over: a datagram that vouches for the side by its soundness, a resent one by what
its ring held. -/
theorem Restrained.acksWithin_sent (h : x.Restrained y) (hx : x.Sound y) (hx' : (x.take ev).Sound y)
    {d : Bytes} (hd : d ∈ Peer.transmissions (x.endpoint.handle ev).effects) :
    AcksWithin y.endpoint.session.info.sendInitial (x.take ev).delivered.length d := by
  rcases (Endpoint.utters_handle x.endpoint ev).forall_mem (Endpoint.effects_prepare _ _) d hd with
    hv | ⟨hst, ring, q, hring, rfl⟩
  · rw [← take_endpoint] at hv
    exact hx'.acksWithin_of_vouches hv
  · exact ((h.ring hst ring hring).getD_slot (hx.talks.stored ring hring).wf AcksWithin.nil q).mono
      (delivered_length_le_take x ev)

/-- A connected side's ring after an event holds what it held while connected, or the first
bytes of a datagram of the event, which fit the ring whole. -/
theorem Restrained.ring_take (h : x.Restrained y) (hx : x.Sound y) (hx' : (x.take ev).Sound y)
    (hreach : (x.take ev).endpoint.Reachable) (hopen : ∀ iss, ev ≠ .connect iss ∧ ev ≠ .wait iss)
    (hc : (x.take ev).endpoint.session.state = .connected) (r' : SegmentBuffer)
    (hr' : (x.take ev).endpoint.session.sendRing = some r') :
    r'.Keeps fun _ b ↦ AcksWithin y.endpoint.session.info.sendInitial (x.take ev).delivered.length b := by
  intro q hq
  obtain ⟨b, hb⟩ := SegmentBuffer.exists_slot_of_isInUse hq
  refine ⟨b, hb, ?_⟩
  have hs := Endpoint.sendsAs_handle x.endpoint hopen
  have hwf : ∀ r, (x.endpoint.prepare ev).session.sendRing = some r → r.WellFormed := fun r hr ↦
    (hx.talks.stored r (by rwa [Endpoint.session_prepare] at hr)).wf
  rw [take_endpoint] at hr' hc
  rcases hs.ring hwf r' hr' q b hq hb with ⟨r, q', hr, hu, hb₀, -, hc₀⟩ | ⟨d, hd, n, hn, rfl⟩
  · -- held before, by a side that was connected
    rw [Endpoint.session_prepare] at hr hc₀
    obtain ⟨b', hb', hacks⟩ := h.ring (hc₀ hc) r hr q' hu
    rw [hb₀] at hb'
    cases hb'
    exact hacks.mono (delivered_length_le_take x ev)
  · -- cut from a datagram of the event, which the partner's segment size bounds
    obtain ⟨cfg, -, hfit⟩ := hreach.fitsTo
    rw [take_endpoint] at hfit
    have hcfg : cfg = y.endpoint.session.info.config := by
      have hrem := hx'.remote_eq (by rw [take_endpoint, hc]; rfl)
      rw [take_endpoint] at hrem
      rcases hfit.peer with hp | ⟨-, hnone, -⟩
      · exact Option.some.inj (hp.symm.trans hrem)
      · rw [hnone] at hr'
        cases hr'
    have hroom := (hx'.talks.stored r' (by rw [take_endpoint]; exact hr')).room
    have hlen := hfit.sent d hd
    simp only [ledger] at hroom
    rw [hcfg] at hlen
    rw [List.take_of_length_le (by omega)]
    exact h.acksWithin_sent hx hx' hd

/-- A side's window start after an event stays, moves past its SYN, or moves past an
acknowledgment its partner transmitted, which acknowledges at most what the partner delivered. -/
theorem Restrained.unacked_take (h : x.Restrained y) (hy : y.Restrained x)
    (hrecv : ∀ d, ev = .receive d → ∃ m ∈ y.outbox, m.datagram = d)
    (hopen : ∀ iss, ev ≠ .connect iss ∧ ev ≠ .wait iss)
    (hc : (x.take ev).endpoint.session.state = .connected) :
    ∃ j ≤ y.delivered.length, (x.take ev).endpoint.session.info.sendUnacked =
      (x.take ev).endpoint.session.info.sendInitial + 1 + j.toUInt16 := by
  have hs := Endpoint.sendsAs_handle x.endpoint hopen
  rw [take_endpoint] at hc ⊢
  have hi := hs.sendInitial
  rw [Endpoint.session_prepare] at hi
  rw [hi]
  rcases hs.unacked with ⟨hu, hcon⟩ | hu | ⟨a, ⟨d, rfl, seg, hseg, -, hrst, hack, rfl⟩, hu⟩
  · have hcon' := hcon hc
    rw [Endpoint.session_prepare] at hu hcon'
    obtain ⟨j, hj, hsu⟩ := h.unacked hcon'
    exact ⟨j, hj, hu.trans hsu⟩
  · rw [Endpoint.session_prepare] at hu
    exact ⟨0, Nat.zero_le _, by rw [hu]; simp⟩
  · obtain ⟨m, hm, rfl⟩ := hrecv _ rfl
    obtain ⟨-, j, hj, ha⟩ := hy.outbox m hm seg hseg hrst hack
    refine ⟨j, hj, ?_⟩
    rw [hu, ha, UInt16.add_assoc, UInt16.add_comm j.toUInt16 1, ← UInt16.add_assoc]

/-- A side that accepts in an event is connected after it, and its send window, as large as the
partner's receive window, starts at most as far past its SYN as the partner delivered. -/
theorem Restrained.ahead_take (h : x.Restrained y) (hy : y.Restrained x) (hx' : (x.take ev).Sound y)
    (hpre : y.delivered <+: (x.take ev).accepted) (hlt : (x.take ev).accepted.length < 2 ^ 16)
    (hreach : (x.take ev).endpoint.Reachable)
    (hrecv : ∀ d, ev = .receive d → ∃ m ∈ y.outbox, m.datagram = d)
    (hopen : ∀ iss, ev ≠ .connect iss ∧ ev ≠ .wait iss) :
    (x.take ev).accepted.length ≤
      y.delivered.length + y.endpoint.session.info.config.maxOutstanding.toNat := by
  rcases accepted_take x ev with hacc | hc
  · rw [hacc]
    exact h.ahead
  obtain ⟨r, send, queue, recv, hrem, -, -, -, hw⟩ := hreach.windows_aligned hc
  have hr : r = y.endpoint.session.info.config :=
    Option.some.inj (hrem.symm.trans (hx'.remote_eq (by rw [hc]; rfl)))
  obtain ⟨j, hj, hsu⟩ := h.unacked_take hy hrecv hopen hc
  have hnext := hw.next_le
  rw [hx'.sendNext_eq, hsu, Seq.toNat_offset_add_add _ (hj.trans hpre.length_le) hlt, hr] at hnext
  omega

/-- An event at a side keeps what the side keeps towards its partner. -/
theorem Restrained.take (h : x.Restrained y) (hy : y.Restrained x) (hx : x.Sound y)
    (hx' : (x.take ev).Sound y) (hpre : y.delivered <+: (x.take ev).accepted)
    (hlt : (x.take ev).accepted.length < 2 ^ 16) (hreach : (x.take ev).endpoint.Reachable)
    (hrecv : ∀ d, ev = .receive d → ∃ m ∈ y.outbox, m.datagram = d)
    (hopen : ∀ iss, ev ≠ .connect iss ∧ ev ≠ .wait iss) : (x.take ev).Restrained y where
  outbox m hm := by
    obtain ⟨acc, hrec⟩ := take_eq_record x ev
    have hm' := hm
    rw [hrec, record_outbox, List.mem_append, List.mem_map] at hm'
    rcases hm' with hm' | ⟨d, hd, rfl⟩
    · exact (h.outbox m hm').mono (delivered_length_le_take x ev)
    · exact h.acksWithin_sent hx hx' hd
  ring := h.ring_take hx hx' hreach hopen
  unacked := h.unacked_take hy hrecv hopen
  ahead := h.ahead_take hy hx' hpre hlt hreach hrecv hopen

end Take

/-- A fresh session just opened keeps what a side keeps: it is not connected, has accepted
nothing, and its SYN acknowledges nothing. -/
theorem Restrained.opened {cfg : Config} {s : Session} (hs : Session.new cfg = .ok s) {ev : Event}
    (hev : ∃ iss, ev = .connect iss ∨ ev = .wait iss) (hx : ((Side.fresh s).take ev).Sound y) :
    ((Side.fresh s).take ev).Restrained y := by
  obtain rfl := Session.eq_of_new hs
  have hrec : (Side.fresh { info := { config := cfg } }).take ev =
      (Side.fresh { info := { config := cfg } }).record
        (Endpoint.handle { session := { info := { config := cfg } } } ev) [] := by
    obtain ⟨iss, rfl | rfl⟩ := hev <;> rfl
  -- opening leaves the session initiating or waiting
  have hnc : ((Side.fresh { info := { config := cfg } }).take ev).endpoint.session.state ≠
      .connected := by
    rw [hrec, record_endpoint]
    obtain ⟨iss, rfl | rfl⟩ := hev
    · simp only [Endpoint.handle, Event.act, Act.connect, Act.run_bind, Act.run_session,
        Endpoint.session_prepare]
      simp only [↓reduceIte, Act.run_bind]
      rw [Act.state_enter]
      decide
    · simp only [Endpoint.handle, Event.act, Act.wait, Act.run_bind, Act.run_session,
        Endpoint.session_prepare]
      simp only [↓reduceIte, Act.run_bind]
      rw [Act.state_enter]
      decide
  refine ⟨fun m hm ↦ ?_, fun hc ↦ absurd hc hnc, fun hc ↦ absurd hc hnc, ?_⟩
  · rw [hrec, record_outbox, List.mem_append, List.mem_map] at hm
    rcases hm with hm | ⟨d, hd, rfl⟩
    · cases hm
    rcases (Endpoint.utters_handle _ ev).forall_mem (Endpoint.effects_prepare _ _) d hd with
      hv | ⟨hst, -⟩
    · exact hx.acksWithin_of_vouches (by rw [Side.take_endpoint]; exact hv)
    · cases hst
  · rw [hrec, record_accepted]
    exact Nat.zero_le _

end Side

namespace Conversation

/-- Both sides keep what a side keeps towards its partner. -/
def Restrained (c : Conversation) : Prop :=
  ∀ p, (c.side p).Restrained (c.side p.peer)

variable {c : Conversation}

/-- The endpoint of either side of a conversation is one its host can reach. -/
theorem Reachable.endpoint_reachable (hc : c.Reachable) (p : Party) :
    (c.side p).endpoint.Reachable := by
  induction hc generalizing p with
  | opened ha hb x y bActive =>
    cases p
    · exact .handle _ (.fresh ha)
    · show ((Side.fresh _).take (if bActive then .connect y else .wait y)).endpoint.Reachable
      rw [Side.take_endpoint]
      exact .handle _ (.fresh hb)
  | step q ev _ _ ih =>
    by_cases hq : p = q
    · subst hq
      rw [side_step_self, Side.take_endpoint]
      exact .handle ev (ih p)
    · obtain rfl := Party.eq_peer_of_ne hq
      rw [side_step_peer]
      exact ih q.peer

/-- An event at one side of a conversation only adds to what the side accepted. -/
theorem accepted_prefix_step (p : Party) (ev : Event) (q : Party) :
    (c.side q).accepted <+: ((c.step p ev).side q).accepted := by
  by_cases hq : q = p
  · subst hq
    rw [side_step_self]
    obtain ⟨acc, h⟩ := Side.take_eq_record (c.side q) ev
    rw [h, Side.record_accepted]
    exact List.prefix_append _ _
  · obtain rfl := Party.eq_peer_of_ne hq
    simp only [side_step_peer, List.prefix_refl]

/-- **How far each side runs ahead.** While each side has accepted fewer than `2^16` payloads,
every datagram a side transmitted or holds acknowledges at most what it delivered, a connected
side's window starts at most as far past its SYN as its partner delivered, and each side has
accepted at most its partner's window more than its partner delivered. -/
theorem Reachable.restrained (hc : c.Reachable) (hlt : ∀ p, (c.side p).accepted.length < 2 ^ 16) :
    c.Restrained := by
  induction hc with
  | opened ha hb x y bActive =>
    have hsound := sound_opening ha hb x y bActive
    intro p
    cases p
    · exact Side.Restrained.opened ha ⟨x, .inl rfl⟩ (hsound .a)
    · exact Side.Restrained.opened hb ⟨y, by cases bActive <;> simp⟩ (hsound .b)
  | @step c p ev hc hallow ih =>
    have hc' := Reachable.step p ev hc hallow
    have ih := ih fun q ↦ Nat.lt_of_le_of_lt (accepted_prefix_step p ev q).length_le (hlt q)
    have hx := hc.sound p
    have hy : (c.side p.peer).Sound (c.side p) := by simpa using hc.sound p.peer
    intro q
    by_cases hq : q = p
    · subst hq
      rw [side_step_self, side_step_peer]
      have hx' := hc'.sound q
      have hpre := hc'.delivered_prefix q (hlt q)
      have hreach := hc'.endpoint_reachable q
      have hlt' := hlt q
      rw [side_step_self, side_step_peer] at hx' hpre
      rw [side_step_self] at hreach hlt'
      exact (ih q).take (by simpa using ih q.peer) hx hx' hpre hlt' hreach hallow.receive
        hallow.not_open
    · obtain rfl := Party.eq_peer_of_ne hq
      rw [side_step_peer, Party.peer_peer, side_step_self]
      obtain ⟨hiss, hcfg, -⟩ := hx.take_keeps hy hallow.receive hallow.not_open
      exact (by simpa using ih p.peer : (c.side p.peer).Restrained (c.side p)).partner hiss hcfg
        (Side.delivered_length_le_take _ _)

/-- **A side's next number lies in its engaged partner's receive window.** The partner's window
starts right after its deliveries, and the side has accepted at most a window more than the
partner delivered. -/
theorem Reachable.sendNext_inWindow (hc : c.Reachable)
    (hlt : ∀ p, (c.side p).accepted.length < 2 ^ 16) (p : Party)
    (heng : (c.side p).endpoint.session.state.isEngaged = true) :
    Seq.inWindow (c.side p.peer).endpoint.session.info.sendNext
      ((c.side p).endpoint.session.info.receiveAcked + 1)
      (c.side p).endpoint.session.info.config.maxOutstanding.toUInt16 = true := by
  have hx := hc.sound p
  have hy : (c.side p.peer).Sound (c.side p) := by simpa using hc.sound p.peer
  have hahead : (c.side p.peer).accepted.length ≤ (c.side p).delivered.length +
      (c.side p).endpoint.session.info.config.maxOutstanding.toNat := by
    simpa using (hc.restrained hlt p.peer).ahead
  have hpre : (c.side p).delivered <+: (c.side p.peer).accepted := by
    simpa using hc.delivered_prefix p.peer (hlt p.peer)
  have hstart : ∀ b k : UInt16, b + k + 1 = b + 1 + k := fun b k ↦ by
    rw [UInt16.add_assoc, UInt16.add_comm k 1, ← UInt16.add_assoc]
  rw [Seq.inWindow_iff, hy.sendNext_eq, hx.receiveAcked_eq heng, hstart,
    Seq.toNat_offset_add_add _ hpre.length_le (hlt p.peer), UInt8.toNat_toUInt16]
  omega

/-- A SYN on its way to a side that carries ACK acknowledges that side's own SYN. -/
theorem Reachable.syn_acks_own (hc : c.Reachable) (hlt : ∀ p, (c.side p).accepted.length < 2 ^ 16)
    {p : Party} {d : Bytes} (hallow : c.Allows p (.receive d)) {seg : Segment} {cc : Common}
    {cfg : Config} (hseg : Segment.parse d = .ok seg) (hh : seg.header = .syn cc cfg)
    (hack : cc.flags.has .ack = true) :
    cc.ack = (c.side p).endpoint.session.info.sendInitial := by
  obtain ⟨m, hm, rfl⟩ := hallow
  have hacks := (hc.restrained hlt p.peer).outbox m hm
  rw [Party.peer_peer] at hacks
  have hs := (hacks seg hseg (by rw [hh]; nofun) (by rw [hh]; exact hack)).1 (by rw [hh]; rfl)
  rw [hh] at hs
  exact hs

end Conversation

/-! ### The level of a datagram on its way -/

namespace Segment

/-- How many answers a segment from a side whose next number is `next` can still draw, at most:
an RST none, an acknowledgment without payload numbered `next` one, a SYN acknowledging the
peer's two, a bare SYN three, anything else two. -/
def rank (next : UInt16) (seg : Segment) : Nat :=
  if seg.header.kind = .rst then 0
  else if seg.header.kind = .syn then (if seg.header.common.flags.has .ack then 2 else 3)
  else if (seg.header.kind = .ack ∨ seg.header.kind = .eack) ∧ seg.payload = [] ∧
      seg.header.common.seq = next then 1
  else 2

/-- The rank of what a datagram decodes to; one that decodes to nothing draws no answer. -/
def rankOf (next : UInt16) (d : Bytes) : Nat :=
  match parse d with
  | .ok seg => seg.rank next
  | .error _ => 0

variable {next : UInt16} {seg : Segment} {d : Bytes}

theorem rankOf_eq (h : parse d = .ok seg) : rankOf next d = seg.rank next := by
  rw [rankOf, h]

theorem rank_le_three (next : UInt16) (seg : Segment) : seg.rank next ≤ 3 := by
  unfold rank
  split_ifs <;> omega

theorem rankOf_le_three (next : UInt16) (d : Bytes) : rankOf next d ≤ 3 := by
  unfold rankOf
  split
  · exact rank_le_three _ _
  · omega

theorem rank_of_rst (hk : seg.header.kind = .rst) : seg.rank next = 0 := by
  simp [rank, hk]

theorem one_le_rank (hk : seg.header.kind ≠ .rst) : 1 ≤ seg.rank next := by
  unfold rank
  rw [if_neg hk]
  split_ifs <;> omega

/-- Anything but an RST or an acknowledgment without payload numbered `next` has rank two or
more. -/
theorem two_le_rank (hk : seg.header.kind ≠ .rst)
    (hfresh : ¬ ((seg.header.kind = .ack ∨ seg.header.kind = .eack) ∧ seg.payload = [] ∧
      seg.header.common.seq = next)) : 2 ≤ seg.rank next := by
  unfold rank
  rw [if_neg hk, if_neg hfresh]
  split_ifs <;> omega

theorem rank_bareSyn (hk : seg.header.kind = .syn) (hack : seg.header.common.flags.has .ack = false) :
    seg.rank next = 3 := by
  simp [rank, hk, hack]

theorem rank_synAck (hk : seg.header.kind = .syn) (hack : seg.header.common.flags.has .ack = true) :
    seg.rank next = 2 := by
  simp [rank, hk, hack]

theorem rank_fresh (hk : seg.header.kind = .ack ∨ seg.header.kind = .eack) (hp : seg.payload = [])
    (hs : seg.header.common.seq = next) : seg.rank next = 1 := by
  have hrst : seg.header.kind ≠ .rst := by
    rcases hk with hk | hk <;> rw [hk] <;> nofun
  have hsyn : seg.header.kind ≠ .syn := by
    rcases hk with hk | hk <;> rw [hk] <;> nofun
  simp [rank, hrst, hsyn, hk, hp, hs]

end Segment

namespace Conversation

variable {c c' : Conversation}

/-- The number of sides still live. -/
def liveCount (c : Conversation) : Nat :=
  c.a.endpoint.session.state.isLive.toNat + c.b.endpoint.session.state.isLive.toNat

/-- The level of datagram `d` on its way to party `p`: its rank, for the next number of the side
that sent it, plus the number of sides still live. -/
def level (c : Conversation) (p : Party) (d : Bytes) : Nat :=
  Segment.rankOf (c.side p.peer).endpoint.session.info.sendNext d + c.liveCount

theorem liveCount_le_two (c : Conversation) : c.liveCount ≤ 2 := by
  unfold liveCount
  cases c.a.endpoint.session.state.isLive <;> cases c.b.endpoint.session.state.isLive <;> decide

theorem level_le_five (c : Conversation) (p : Party) (d : Bytes) : c.level p d ≤ 5 := by
  have h₁ := Segment.rankOf_le_three (c.side p.peer).endpoint.session.info.sendNext d
  have h₂ := c.liveCount_le_two
  unfold level
  omega

/-- An event at one side changes the count of live sides by that side alone. -/
theorem liveCount_step (c : Conversation) (p : Party) (ev : Event) :
    (c.step p ev).liveCount + (c.side p).endpoint.session.state.isLive.toNat =
      c.liveCount + ((c.step p ev).side p).endpoint.session.state.isLive.toNat := by
  cases p <;> simp only [liveCount, step, set, side] <;> omega

/-- Datagrams arrive, and nothing else happens, from `c` until `c'`. -/
inductive Quiet (c : Conversation) : Conversation → Prop
  | refl : Quiet c c
  | step {c₁ : Conversation} (p : Party) (d : Bytes) :
      Quiet c c₁ → c₁.Allows p (.receive d) → Quiet c (c₁.step p (.receive d))

/-! ### One datagram arriving -/

section Arrival

variable {p : Party} {d : Bytes}

theorem accepted_step_receive (q : Party) :
    ((c.step p (.receive d)).side q).accepted = (c.side q).accepted := by
  by_cases hq : q = p
  · subst hq
    rw [side_step_self]
    exact List.append_nil _
  · obtain rfl := Party.eq_peer_of_ne hq
    rw [side_step_peer]

/-- What arrives keeps each side's next number: it accepts nothing. -/
theorem sendNext_step_receive (hc : c.Reachable) (hallow : c.Allows p (.receive d)) (q : Party) :
    ((c.step p (.receive d)).side q).endpoint.session.info.sendNext =
      (c.side q).endpoint.session.info.sendNext := by
  by_cases hq : q = p
  · subst hq
    have hx' := (Reachable.step q _ hc hallow).sound q
    have hy : (c.side q.peer).Sound (c.side q) := by simpa using hc.sound q.peer
    obtain ⟨hiss, -, -⟩ := (hc.sound q).take_keeps hy hallow.receive hallow.not_open
    rw [hx'.sendNext_eq, (hc.sound q).sendNext_eq, accepted_step_receive, side_step_self, hiss]
  · obtain rfl := Party.eq_peer_of_ne hq
    rw [side_step_peer]

/-- A side that is no longer live stays so whatever arrives. -/
theorem isLive_step_receive (q : Party) (hq : (c.side q).endpoint.session.state.isLive = false) :
    ((c.step p (.receive d)).side q).endpoint.session.state.isLive = false := by
  by_cases hqp : q = p
  · subst hqp
    rw [side_step_self, Side.take_endpoint]
    exact Act.isLive_receive (by rwa [Endpoint.session_prepare]) d
  · obtain rfl := Party.eq_peer_of_ne hqp
    rw [side_step_peer]
    exact hq

theorem liveCount_step_receive_le : (c.step p (.receive d)).liveCount ≤ c.liveCount := by
  have h := liveCount_step c p (.receive d)
  cases hl : (c.side p).endpoint.session.state.isLive
  · rw [isLive_step_receive p hl] at h
    simp only [Bool.toNat_false] at h
    omega
  · simp only [hl, Bool.toNat_true] at h
    have := Bool.toNat_le ((c.step p (.receive d)).side p).endpoint.session.state.isLive
    omega

end Arrival

/-! ### A quiet span -/

namespace Quiet

theorem reachable (hc : c.Reachable) (h : c.Quiet c') : c'.Reachable := by
  induction h with
  | refl => exact hc
  | step p d _ hallow ih => exact Reachable.step p _ ih hallow

theorem accepted (h : c.Quiet c') (q : Party) : (c'.side q).accepted = (c.side q).accepted := by
  induction h with
  | refl => rfl
  | step p d _ _ ih => rw [accepted_step_receive, ih]

theorem sendNext (hc : c.Reachable) (h : c.Quiet c') (q : Party) :
    (c'.side q).endpoint.session.info.sendNext = (c.side q).endpoint.session.info.sendNext := by
  induction h with
  | refl => rfl
  | step p d hq hallow ih => rw [sendNext_step_receive (hq.reachable hc) hallow, ih]

theorem not_live (h : c.Quiet c') (q : Party) (hq : (c.side q).endpoint.session.state.isLive = false) :
    (c'.side q).endpoint.session.state.isLive = false := by
  induction h with
  | refl => exact hq
  | step p d _ _ ih => exact isLive_step_receive q ih

theorem liveCount_le (h : c.Quiet c') : c'.liveCount ≤ c.liveCount := by
  induction h with
  | refl => exact le_rfl
  | step p d _ _ ih => exact liveCount_step_receive_le.trans ih

/-- A quiet span never raises a level. -/
theorem level_le (hc : c.Reachable) (h : c.Quiet c') (p : Party) (d : Bytes) :
    c'.level p d ≤ c.level p d := by
  unfold level
  rw [h.sendNext hc]
  have := h.liveCount_le
  omega

end Quiet

/-! ### Answers go down in level -/

/-- **An answer has a lower level than what it answers.** A datagram that a side transmits while
taking a datagram its partner sent ranks lower, or leaves fewer sides live. -/
theorem level_lt_of_answers (hc : c.Reachable) (hlt : ∀ q, (c.side q).accepted.length < 2 ^ 16)
    {p : Party} {d d' : Bytes} (hallow : c.Allows p (.receive d))
    (hd' : d' ∈ Peer.transmissions ((c.side p).endpoint.handle (.receive d)).effects) :
    (c.step p (.receive d)).level p.peer d' < c.level p d := by
  obtain ⟨seg, hseg, hans⟩ := (Act.answers_receive ((c.side p).endpoint.prepare (.receive d)) d).forall_mem
    (Endpoint.effects_prepare _ _) d' hd'
  have hend : ((c.step p (.receive d)).side p).endpoint =
      ((Act.receive d).run ((c.side p).endpoint.prepare (.receive d))).2 := by
    rw [side_step_self, Side.take_endpoint]
    rfl
  have hlive := liveCount_step_receive_le (c := c) (p := p) (d := d)
  unfold level
  rw [Party.peer_peer, hend, Segment.rankOf_eq hseg]
  cases hans with
  | reset hres hrst =>
    obtain ⟨seg', hseg', hk'⟩ := hres
    rw [Segment.rankOf_eq hseg', Segment.rank_of_rst hk']
    by_cases hk : seg.header.kind = .rst
    · -- an RST answers an RST only from a connected side, which stops being live
      obtain ⟨hbefore, hafter⟩ := hrst hk
      have h := liveCount_step c p (.receive d)
      rw [Endpoint.session_prepare] at hbefore
      rw [hend, hafter, hbefore] at h
      simp only [State.isLive, Bool.toNat_true, Bool.toNat_false] at h
      omega
    · have : 1 ≤ seg.rank (c.side p.peer).endpoint.session.info.sendNext := Segment.one_le_rank hk
      omega
  | syn hread hst' hsyn =>
    obtain ⟨cc, cfg, hh, hnot⟩ := hsyn
    obtain ⟨seg', hseg', -, hk', hf', -⟩ := hread
    have hack' : seg'.header.common.flags.has .ack = true := by
      rw [hf']
      simp only [Header.buildSyn, Header.fresh, Header.common, Option.isSome_some]
      decide
    rw [Segment.rankOf_eq hseg', Segment.rank_synAck (by rw [hk']; rfl) hack']
    -- the partner's SYNs acknowledge this side's own initial number, so this one is bare
    have hack : cc.flags.has .ack = false := by
      cases hcc : cc.flags.has .ack
      · rfl
      · exact absurd ⟨hcc, hc.syn_acks_own hlt hallow hseg hh hcc⟩ hnot
    rw [Segment.rank_bareSyn (by rw [hh]; rfl) (by rw [hh]; exact hack)]
    omega
  | ack hacks hst' hk hbare =>
    obtain ⟨seg', hseg', hp', hk', -, hs', -⟩ := hacks
    rw [Segment.rankOf_eq hseg', Segment.rank_fresh hk' hp' hs']
    -- the partner's next number lies in this side's window, so the answered segment is no
    -- acknowledgment without payload numbered with it
    have hfresh : ¬ ((seg.header.kind = .ack ∨ seg.header.kind = .eack) ∧ seg.payload = [] ∧
        seg.header.common.seq = (c.side p.peer).endpoint.session.info.sendNext) := by
      rintro ⟨hk₀, hp₀, hs₀⟩
      obtain ⟨heng, hout⟩ := hbare hk₀ hp₀
      rw [Endpoint.session_prepare] at heng hout
      rw [hs₀, hc.sendNext_inWindow hlt p heng] at hout
      cases hout
    have := Segment.two_le_rank hk hfresh
    omega

/-! ### Chains of answers -/

/-- `c.Echoes p d n`: from `c` on, while only datagrams arrive, datagram `d` arriving at `p`
starts a chain of `n` answers, each transmitted while the other side took the one before. -/
inductive Echoes : Conversation → Party → Bytes → Nat → Prop
  /-- A datagram by itself. -/
  | last (c : Conversation) (p : Party) (d : Bytes) : Echoes c p d 0
  /-- `d` arrives after a quiet span, and one datagram transmitted in answer starts a chain. -/
  | answer {c c₁ : Conversation} {p : Party} {d d' : Bytes} {n : Nat} :
      c.Quiet c₁ → c₁.Allows p (.receive d) →
      d' ∈ Peer.transmissions ((c₁.side p).endpoint.handle (.receive d)).effects →
      Echoes (c₁.step p (.receive d)) p.peer d' n → Echoes c p d (n + 1)

/-- A chain of answers is no longer than the level of the datagram that starts it. -/
theorem Echoes.le_level {p : Party} {d : Bytes} {n : Nat} (hc : c.Reachable)
    (hlt : ∀ q, (c.side q).accepted.length < 2 ^ 16) (h : c.Echoes p d n) : n ≤ c.level p d := by
  induction h with
  | last => exact Nat.zero_le _
  | @answer c c₁ p d d' n hq hallow hd' _ ih =>
    -- the span keeps the conversation reachable and the accepted payloads as they were
    have hc₁ := hq.reachable hc
    have hlt₁ : ∀ q, (c₁.side q).accepted.length < 2 ^ 16 := fun q ↦ by
      rw [hq.accepted]
      exact hlt q
    have hc₂ := Reachable.step p _ hc₁ hallow
    have hlt₂ : ∀ q, ((c₁.step p (.receive d)).side q).accepted.length < 2 ^ 16 := fun q ↦ by
      rw [accepted_step_receive]
      exact hlt₁ q
    have h₁ := ih hc₂ hlt₂
    have h₂ := level_lt_of_answers hc₁ hlt₁ hallow hd'
    have h₃ := hq.level_le hc p d
    omega

/-! ### Acknowledgments and RSTs in a quiet span -/

section Span

variable {c₁ c₂ : Conversation} {p : Party} {d d' : Bytes}

/-- An acknowledgment without payload sent in answer is numbered with its sender's next number
as the event leaves it. -/
theorem seq_eq_sendNext_of_answers {seg' : Segment} (hd' : d' ∈
      Peer.transmissions ((c₁.side p).endpoint.handle (.receive d)).effects)
    (hseg' : Segment.parse d' = .ok seg')
    (hk' : seg'.header.kind = .ack ∨ seg'.header.kind = .eack) :
    seg'.header.common.seq = ((c₁.step p (.receive d)).side p).endpoint.session.info.sendNext := by
  obtain ⟨seg, -, hans⟩ := (Act.answers_receive ((c₁.side p).endpoint.prepare (.receive d)) d).forall_mem
    (Endpoint.effects_prepare _ _) d' hd'
  cases hans with
  | reset hres _ =>
    obtain ⟨s, hs, hk⟩ := hres
    obtain rfl := Except.ok.inj (hseg'.symm.trans hs)
    rcases hk' with h | h <;> rw [h] at hk <;> cases hk
  | syn hread _ _ =>
    obtain ⟨s, hs, -, hk, -⟩ := hread
    obtain rfl := Except.ok.inj (hseg'.symm.trans hs)
    rcases hk' with h | h <;> rw [h] at hk <;> cases hk
  | ack hacks _ _ _ =>
    obtain ⟨s, hs, -, -, -, hseq, -⟩ := hacks
    obtain rfl := Except.ok.inj (hseg'.symm.trans hs)
    rw [hseq, side_step_self, Side.take_endpoint]
    rfl

/-- **An acknowledgment without payload sent in a quiet span is never answered by a connected
partner in that span**: it keeps its sender's next number, which lies in the partner's window. -/
theorem Quiet.silent_bareAck (hc : c.Reachable) (hlt : ∀ q, (c.side q).accepted.length < 2 ^ 16)
    (hq₁ : c.Quiet c₁) (hallow : c₁.Allows p (.receive d))
    (hd' : d' ∈ Peer.transmissions ((c₁.side p).endpoint.handle (.receive d)).effects)
    {seg' : Segment} (hseg' : Segment.parse d' = .ok seg')
    (hk' : seg'.header.kind = .ack ∨ seg'.header.kind = .eack) (hp' : seg'.payload = [])
    (hq₂ : (c₁.step p (.receive d)).Quiet c₂)
    (hcon : (c₂.side p.peer).endpoint.session.state = .connected) :
    Peer.transmissions ((c₂.side p.peer).endpoint.handle (.receive d')).effects = [] := by
  have hc₁ := hq₁.reachable hc
  have hc₂' := Reachable.step p _ hc₁ hallow
  have hc₂ := hq₂.reachable hc₂'
  have hlt₂ : ∀ q, (c₂.side q).accepted.length < 2 ^ 16 := fun q ↦ by
    rw [hq₂.accepted, accepted_step_receive, hq₁.accepted]
    exact hlt q
  have hin := hc₂.sendNext_inWindow hlt₂ p.peer (by rw [hcon]; rfl)
  rw [Party.peer_peer, hq₂.sendNext hc₂' p, ← seq_eq_sendNext_of_answers hd' hseg' hk'] at hin
  have hsil := Act.silent_receive_of_inWindow (e := (c₂.side p.peer).endpoint.prepare (.receive d'))
    (by rwa [Endpoint.session_prepare]) hseg' hk' hp' (by rwa [Endpoint.session_prepare])
  unfold Endpoint.Silent at hsil
  rw [Endpoint.effects_prepare] at hsil
  exact hsil

/-- **An RST is answered only by a connected side, which does not connect again in the quiet
span**: it leaves for `disconnecting`, and a side that is no longer live stays so while datagrams
arrive. -/
theorem Quiet.answers_rst (hrst : Segment.Resets d)
    (hd' : d' ∈ Peer.transmissions ((c₁.side p).endpoint.handle (.receive d)).effects) :
    (c₁.side p).endpoint.session.state = .connected ∧
      ∀ c₂, (c₁.step p (.receive d)).Quiet c₂ → (c₂.side p).endpoint.session.state ≠ .connected := by
  obtain ⟨seg, hseg, hans⟩ := (Act.answers_receive ((c₁.side p).endpoint.prepare (.receive d)) d).forall_mem
    (Endpoint.effects_prepare _ _) d' hd'
  obtain ⟨s, hs, hk⟩ := hrst
  obtain rfl := Except.ok.inj (hs.symm.trans hseg)
  cases hans with
  | reset _ hreset =>
    obtain ⟨hbefore, hafter⟩ := hreset hk
    rw [Endpoint.session_prepare] at hbefore
    refine ⟨hbefore, fun c₂ hq₂ hcon ↦ ?_⟩
    have hdown : ((c₁.step p (.receive d)).side p).endpoint.session.state.isLive = false := by
      rw [side_step_self, Side.take_endpoint]
      show ((Act.receive d).run ((c₁.side p).endpoint.prepare (.receive d))).2.session.state.isLive = false
      rw [hafter]
      rfl
    have := hq₂.not_live p hdown
    rw [hcon] at this
    cases this
  | syn _ _ hsyn =>
    obtain ⟨cc, cfg, hh, -⟩ := hsyn
    rw [hh] at hk
    cases hk
  | ack _ _ hk' _ => exact absurd hk hk'

end Span

/-- **No response storms.** Every event makes a session transmit at most one datagram, and an
RST is answered only by a connected side, which then does not connect again while only datagrams
arrive. In a conversation, while each side has accepted fewer than `2^16` payloads, every chain
of answers in a quiet span has at most five answers, whatever the configurations, the initial
numbers and what the network lost, duplicated or reordered before; and in such a span an
acknowledgment without payload that a side sends is not answered by its partner while connected. -/
theorem no_response_storms :
    (∀ (e : Endpoint) (ev : Event), (Peer.transmissions (e.handle ev).effects).length ≤ 1) ∧
    (∀ (c₁ : Conversation) p d d', Segment.Resets d →
      d' ∈ Peer.transmissions ((c₁.side p).endpoint.handle (.receive d)).effects →
      (c₁.side p).endpoint.session.state = .connected ∧
        ∀ c₂, (c₁.step p (.receive d)).Quiet c₂ →
          (c₂.side p).endpoint.session.state ≠ .connected) ∧
    ∀ c : Conversation, c.Reachable → (∀ p, (c.side p).accepted.length < 2 ^ 16) →
      (∀ p d n, c.Echoes p d n → n ≤ 5) ∧
      ∀ c₁ p d d', c.Quiet c₁ → c₁.Allows p (.receive d) →
        d' ∈ Peer.transmissions ((c₁.side p).endpoint.handle (.receive d)).effects →
        ∀ seg', Segment.parse d' = .ok seg' →
          (seg'.header.kind = .ack ∨ seg'.header.kind = .eack) → seg'.payload = [] →
        ∀ c₂, (c₁.step p (.receive d)).Quiet c₂ →
          (c₂.side p.peer).endpoint.session.state = .connected →
          Peer.transmissions ((c₂.side p.peer).endpoint.handle (.receive d')).effects = [] := by
  refine ⟨Endpoint.length_transmissions_handle_le, fun c₁ p d d' hrst hd' ↦ Quiet.answers_rst hrst hd',
    fun c hc hlt ↦ ⟨fun p d n h ↦ (h.le_level hc hlt).trans (c.level_le_five p d), ?_⟩⟩
  intro c₁ p d d' hq₁ hallow hd' seg' hseg' hk' hp' c₂ hq₂ hcon
  exact Quiet.silent_bareAck hc hlt hq₁ hallow hd' hseg' hk' hp' hq₂ hcon

/-- After the handshake and one delivered payload, both sides are far below `2^16` accepted
payloads, so every chain of answers in a quiet span from there has at most five answers. -/
theorem pairDelivered_echoes_short :
    pairDelivered.Reachable ∧ (∀ p, (pairDelivered.side p).accepted.length < 2 ^ 16) ∧
      ∀ p d n, pairDelivered.Echoes p d n → n ≤ 5 := by
  have hlt : ∀ p, (pairDelivered.side p).accepted.length < 2 ^ 16 := by
    intro p
    cases p <;> decide +kernel
  exact ⟨pairDelivered_reachable, hlt,
    (no_response_storms.2.2 pairDelivered pairDelivered_reachable hlt).1⟩

end Conversation

end ReliableDatagram
