import ReliableDatagram.Proofs.Answers
/-!
# The sending half of a session within an event

Two things about a session's sending half matter to its partner: where its send window starts
(`sendUnacked`), and what its send ring holds for retransmission. Within an event,
`Endpoint.SendsAs A e e'` says:

* the window start stays, or becomes the number after the session's SYN (the handshake
  completes), or the number after an acknowledgment number `a` with property `A` that the
  session took; and a session becomes connected only with the handshake;
* every segment the send ring holds was held before in a slot at least as large, or is the
  first bytes, at least a slot's worth, of a datagram transmitted in the event.

Every action keeps this with an `A` that describes the acknowledgments it takes. For a datagram
that arrives, `A` holds of the acknowledgment number of the NUL or acknowledgment it decodes to,
when that carries ACK; every other event takes none.
-/

namespace ReliableDatagram

/-- Datagram `d` decodes to a NUL or an acknowledgment that carries ACK with number `a`: the
acknowledgments a session takes from what arrives. -/
def Segment.CarriesAck (d : Bytes) (a : UInt16) : Prop :=
  ∃ seg, Segment.parse d = .ok seg ∧ seg.header.kind ≠ .syn ∧ seg.header.kind ≠ .rst ∧
    seg.header.common.flags.has .ack = true ∧ seg.header.common.ack = a

namespace Endpoint

/-- What the send ring of `e'` holds, against `e`: for each number in use, bytes that the ring of
`e` held for some number in a slot at least as large, and then only if `e'` is connected when `e`
was; or the first bytes, a slot's worth or more, of a datagram transmitted by `e'`. -/
def RingFrom (e e' : Endpoint) : Prop :=
  ∀ r', e'.session.sendRing = some r' → ∀ q b, r'.isInUse q = true → r'.slot q = some b →
    (∃ r q', e.session.sendRing = some r ∧ r.isInUse q' = true ∧ r.slot q' = some b ∧
      r'.slotSize ≤ r.slotSize ∧ (e'.session.state = .connected → e.session.state = .connected)) ∨
    ∃ d ∈ Peer.transmissions e'.effects, ∃ n, r'.slotSize ≤ n ∧ b = d.take n

/-- How the sending half moves from `e` to `e'` within an event, for acknowledgment numbers with
property `A`. -/
structure SendsAs (A : UInt16 → Prop) (e e' : Endpoint) : Prop where
  sendInitial : e'.session.info.sendInitial = e.session.info.sendInitial
  /-- Transmissions only grow. -/
  sent : Peer.transmissions e.effects <+: Peer.transmissions e'.effects
  /-- The window start stays, with no new connection, or moves past the SYN or past an
  acknowledgment taken. -/
  unacked : (e'.session.info.sendUnacked = e.session.info.sendUnacked ∧
      (e'.session.state = .connected → e.session.state = .connected)) ∨
    e'.session.info.sendUnacked = e.session.info.sendInitial + 1 ∨
    ∃ a, A a ∧ e'.session.info.sendUnacked = a + 1
  wf : (∀ r, e.session.sendRing = some r → r.WellFormed) →
    ∀ r', e'.session.sendRing = some r' → r'.WellFormed
  ring : (∀ r, e.session.sendRing = some r → r.WellFormed) → RingFrom e e'

variable {A : UInt16 → Prop} {e₁ e₂ e₃ : Endpoint}

namespace SendsAs

theorem refl (e : Endpoint) : SendsAs A e e where
  sendInitial := rfl
  sent := List.prefix_refl _
  unacked := .inl ⟨rfl, id⟩
  wf h := h
  ring _ r' hr q _ hu hb := .inl ⟨r', q, hr, hu, hb, le_rfl, id⟩

theorem trans (h₁ : SendsAs A e₁ e₂) (h₂ : SendsAs A e₂ e₃) : SendsAs A e₁ e₃ where
  sendInitial := h₂.sendInitial.trans h₁.sendInitial
  sent := h₁.sent.trans h₂.sent
  unacked := by
    rcases h₂.unacked with ⟨hu₂, hc₂⟩ | hu₂ | hu₂
    · rcases h₁.unacked with ⟨hu₁, hc₁⟩ | hu₁ | hu₁
      · exact .inl ⟨hu₂.trans hu₁, hc₁ ∘ hc₂⟩
      · exact .inr (.inl (hu₂.trans hu₁))
      · exact .inr (.inr (hu₂ ▸ hu₁))
    · exact .inr (.inl (hu₂.trans (by rw [h₁.sendInitial])))
    · exact .inr (.inr hu₂)
  wf hwf := h₂.wf (h₁.wf hwf)
  ring hwf r₃ hr₃ q b hu hb := by
    rcases h₂.ring (h₁.wf hwf) r₃ hr₃ q b hu hb with ⟨r₂, q₂, hr₂, hu₂, hb₂, hs₂, hc₂⟩ | hd
    · rcases h₁.ring hwf r₂ hr₂ q₂ b hu₂ hb₂ with ⟨r₁, q₁, hr₁, hu₁, hb₁, hs₁, hc₁⟩ |
        ⟨d, hd, n, hn, rfl⟩
      · exact .inl ⟨r₁, q₁, hr₁, hu₁, hb₁, hs₂.trans hs₁, hc₁ ∘ hc₂⟩
      · exact .inr ⟨d, h₂.sent.subset hd, n, hs₂.trans hn, rfl⟩
    · exact .inr hd

/-- A step that keeps the numbers, the state and the send ring, and only adds transmissions. -/
theorem of_frame (hi : e₂.session.info.sendInitial = e₁.session.info.sendInitial)
    (hu : e₂.session.info.sendUnacked = e₁.session.info.sendUnacked)
    (hst : e₂.session.state = e₁.session.state) (hr : e₂.session.sendRing = e₁.session.sendRing)
    (hs : Peer.transmissions e₁.effects <+: Peer.transmissions e₂.effects) : SendsAs A e₁ e₂ where
  sendInitial := hi
  sent := hs
  unacked := .inl ⟨hu, fun h ↦ hst ▸ h⟩
  wf hwf r' hr' := hwf r' (hr ▸ hr')
  ring _ r' hr' q _ hu hb := .inl ⟨r', q, hr ▸ hr', hu, hb, le_rfl, fun h ↦ hst ▸ h⟩

theorem of_sameTalk (h : SameTalk e₁ e₂) : SendsAs A e₁ e₂ :=
  of_frame (by rw [h.2.1]) (by rw [h.2.1]) h.1 h.2.2.1 (by simp only [h.2.2.2.2, List.prefix_refl])

/-- At most one datagram more is a longer list of transmissions. -/
theorem sent_of_utters {P : Bytes → Prop} (h : Utters P e₁ e₂) :
    Peer.transmissions e₁.effects <+: Peer.transmissions e₂.effects := by
  rcases h with h | ⟨d, -, h⟩
  · exact h ▸ List.prefix_refl _
  · rw [h]
    exact List.prefix_append _ _

theorem of_spoken (h : Act.Spoken e₁ e₂) (hs : Peer.transmissions e₁.effects <+: Peer.transmissions e₂.effects) :
    SendsAs A e₁ e₂ :=
  of_frame (by rw [h.info]) (by rw [h.info]) h.state (by rw [h.2]) hs

/-- Acknowledgments with property `A` are ones with property `A'` too. -/
theorem mono {A' : UInt16 → Prop} (h : SendsAs A e₁ e₂) (hA : ∀ a, A a → A' a) :
    SendsAs A' e₁ e₂ where
  sendInitial := h.sendInitial
  sent := h.sent
  unacked := by
    rcases h.unacked with hu | hu | ⟨a, ha, hu⟩
    · exact .inl hu
    · exact .inr (.inl hu)
    · exact .inr (.inr ⟨a, hA a ha, hu⟩)
  wf := h.wf
  ring := h.ring

/-- A silent step transmits nothing more. -/
theorem sent_of_silent (h : Silent e₁ e₂) :
    Peer.transmissions e₁.effects <+: Peer.transmissions e₂.effects := by
  exact h ▸ List.prefix_refl _

/-- A step that keeps the numbers and the state and drops the send ring. -/
theorem of_dropped (hi : e₂.session.info.sendInitial = e₁.session.info.sendInitial)
    (hu : e₂.session.info.sendUnacked = e₁.session.info.sendUnacked)
    (hst : e₂.session.state = e₁.session.state) (hr : e₂.session.sendRing = none)
    (hs : Peer.transmissions e₁.effects <+: Peer.transmissions e₂.effects) : SendsAs A e₁ e₂ where
  sendInitial := hi
  sent := hs
  unacked := .inl ⟨hu, fun h ↦ hst ▸ h⟩
  wf _ r' hr' := by
    rw [hr] at hr'
    cases hr'
  ring _ r' hr' := by
    rw [hr] at hr'
    cases hr'

/-- A step that keeps the numbers, the state and the transmissions, and replaces the send ring
by one that holds, for each number in use, what the old one held for it. -/
theorem of_ring {r r' : SegmentBuffer} (hi : e₂.session.info.sendInitial = e₁.session.info.sendInitial)
    (hu : e₂.session.info.sendUnacked = e₁.session.info.sendUnacked)
    (hst : e₂.session.state = e₁.session.state)
    (hs : Peer.transmissions e₁.effects <+: Peer.transmissions e₂.effects)
    (hr : e₁.session.sendRing = some r) (hr' : e₂.session.sendRing = some r')
    (hwf : r.WellFormed → r'.WellFormed) (hsz : r'.slotSize ≤ r.slotSize)
    (hslot : r.WellFormed → ∀ q, r'.isInUse q = true → r.isInUse q = true ∧ r'.slot q = r.slot q) :
    SendsAs A e₁ e₂ where
  sendInitial := hi
  sent := hs
  unacked := .inl ⟨hu, fun h ↦ hst ▸ h⟩
  wf h₁ r₂ hr₂ := by
    rw [hr'] at hr₂
    cases hr₂
    exact hwf (h₁ r hr)
  ring h₁ r₂ hr₂ q b hq hb := by
    rw [hr'] at hr₂
    cases hr₂
    obtain ⟨hq₁, hslot₁⟩ := hslot (h₁ r hr) q hq
    exact .inl ⟨r, q, hr, hq₁, hslot₁ ▸ hb, hsz, fun h ↦ hst ▸ h⟩

end SendsAs

end Endpoint

/-! ### Each action -/

namespace Act

open Endpoint

variable (e : Endpoint) {A : UInt16 → Prop}

theorem sendsAs_transmit (h : Header) : SendsAs A e ((transmit h).run e).2 := by
  refine SendsAs.of_spoken (spoken_transmit e h) ?_
  rw [run_transmit]
  split
  · simp only [Peer.transmissions_append]
    exact List.prefix_append _ _
  · exact List.prefix_refl _

theorem sendsAs_sendSyn (ack : Option UInt16) : SendsAs A e ((sendSyn ack).run e).2 := by
  rw [run_sendSyn]
  exact sendsAs_transmit e _

theorem sendsAs_sendRst : SendsAs A e (sendRst.run e).2 := by
  rw [run_sendRst]
  exact sendsAs_transmit e _

theorem sendsAs_sendAck : SendsAs A e (sendAck.run e).2 := by
  rw [run_sendAck]
  exact sendsAs_transmit e _

theorem sendsAs_replyRst (c : Common) : SendsAs A e ((replyRst c).run e).2 := by
  rw [run_replyRst]
  split
  · exact sendsAs_transmit e _
  · exact SendsAs.refl e

theorem sendsAs_openWindows : SendsAs A e (openWindows.run e).2 where
  sendInitial := rfl
  sent := List.prefix_refl _
  unacked := .inl ⟨rfl, id⟩
  wf _ r' hr' := by
    rw [run_openWindows] at hr'
    cases hr'
    exact (SegmentBuffer.WellFormed.new _ _).setBase _
  ring _ r' hr' q _ hq := by
    rw [run_openWindows] at hr'
    cases hr'
    rw [SegmentBuffer.isInUse_setBase] at hq
    cases hq

theorem sendsAs_dropWindows : SendsAs A e (dropWindows.run e).2 := by
  have h := sameTalk_cancelRetransmissions e
  refine SendsAs.of_dropped ?_ ?_ h.1 rfl (SendsAs.sent_of_silent (silent_dropWindows e))
  · show (cancelRetransmissions.run e).2.session.info.sendInitial = _
    rw [h.2.1]
  · show (cancelRetransmissions.run e).2.session.info.sendUnacked = _
    rw [h.2.1]

theorem sendsAs_arrive (next : State) : SendsAs A e ((arrive next).run e).2 := by
  cases next with
  | closed =>
    rw [run_arrive_closed]
    exact (SendsAs.of_sameTalk (sameTalk_cancelAllTimers e)).trans (sendsAs_dropWindows _)
  | waiting =>
    rw [run_arrive_waiting]
    exact (SendsAs.of_sameTalk (sameTalk_cancelAllTimers e)).trans (sendsAs_dropWindows _)
  | initiating =>
    rw [run_arrive_initiating]
    exact (sendsAs_sendSyn e none).trans (.of_sameTalk (sameTalk_armHandshake _))
  | connecting =>
    rw [run_arrive_connecting]
    exact (sendsAs_sendSyn e _).trans (.of_sameTalk (sameTalk_armHandshake _))
  | connected =>
    rw [run_arrive_connected]
    split
    · exact sendsAs_openWindows e
    · exact (sendsAs_openWindows e).trans (.of_sameTalk (sameTalk_armKeepAlive _))
  | disconnecting =>
    rw [run_arrive_disconnecting]
    exact SendsAs.of_sameTalk (sameTalk_armDisconnect e)

/-- Arriving in `connected` opens a send ring with nothing in use. -/
theorem sendRing_arrive_connected : ∃ r, ((arrive .connected).run e).2.session.sendRing = some r ∧
    r.WellFormed ∧ ∀ q, r.isInUse q = false := by
  have hfresh : ∀ e₁ : Endpoint, ∃ r, (openWindows.run e₁).2.session.sendRing = some r ∧
      r.WellFormed ∧ ∀ q, r.isInUse q = false :=
    fun _ ↦ ⟨_, rfl, (SegmentBuffer.WellFormed.new _ _).setBase _, fun q ↦ SegmentBuffer.isInUse_setBase _ _ q⟩
  rw [run_arrive_connected]
  split
  · exact hfresh e
  · rw [(sameTalk_armKeepAlive _).2.2.1]
    exact hfresh e

/-- Entering `connected` from another state opens a send ring with nothing in use. -/
theorem sendRing_enter_connected (hc : e.session.state ≠ .connected) :
    ∃ r, ((enter .connected).run e).2.session.sendRing = some r ∧ r.WellFormed ∧
      ∀ q, r.isInUse q = false := by
  rw [run_enter, if_neg hc]
  exact sendRing_arrive_connected _

theorem sendsAs_setState {next : State} (hn : next ≠ .connected) :
    SendsAs A e { e with session := { e.session with state := next } } where
  sendInitial := rfl
  sent := List.prefix_refl _
  unacked := .inl ⟨rfl, fun h ↦ absurd h hn⟩
  wf h := h
  ring _ r' hr q _ hu hb := .inl ⟨r', q, hr, hu, hb, le_rfl, fun h ↦ absurd h hn⟩

theorem sendsAs_entered (st : State) : SendsAs A e { e with effects := e.effects ++ [.entered st] } :=
  SendsAs.of_frame rfl rfl rfl rfl (SendsAs.sent_of_silent (Silent.of_append rfl rfl))

theorem sendsAs_enter {next : State} (hn : next ≠ .connected) :
    SendsAs A e ((enter next).run e).2 := by
  rw [run_enter]
  split
  · exact SendsAs.refl e
  · exact (((SendsAs.of_sameTalk (sameTalk_leave e _)).trans (sendsAs_setState _ hn)).trans
      (sendsAs_arrive _ next)).trans (sendsAs_entered _ next)

/-- Entering `connected` completes the handshake: a session that was not connected had its
window start past its SYN, and opens its send ring afresh. -/
theorem sendsAs_enter_connected (hn : e.session.state = .connected ∨
      e.session.info.sendUnacked = e.session.info.sendInitial + 1) :
    SendsAs A e ((enter .connected).run e).2 := by
  by_cases hc : e.session.state = .connected
  · rw [run_enter, if_pos hc]
    exact SendsAs.refl e
  obtain ⟨r, hr, hwf, hfree⟩ := sendRing_enter_connected e hc
  have hi := @info_enter e .connected ⟨nofun, nofun⟩
  exact {
    sendInitial := by rw [hi]
    sent := SendsAs.sent_of_silent (silent_enter e ⟨nofun, nofun⟩)
    unacked := .inr (.inl (by rw [hi]; exact hn.resolve_left hc))
    wf := fun _ r' hr' ↦ by
      rw [hr] at hr'
      cases hr'
      exact hwf
    ring := fun _ r' hr' q _ hq ↦ by
      rw [hr] at hr'
      cases hr'
      rw [hfree] at hq
      cases hq }

theorem sendsAs_reset : SendsAs A e (reset.run e).2 := by
  rw [run_reset]
  apply sendsAs_enter
  split <;> nofun

theorem sendsAs_establish : SendsAs A e (establish.run e).2 := by
  rw [run_establish]
  refine SendsAs.trans ?_ (sendsAs_enter_connected _ (.inr rfl))
  exact {
    sendInitial := rfl
    sent := List.prefix_refl _
    unacked := .inr (.inl rfl)
    wf := fun h ↦ h
    ring := fun _ r' hr q _ hu hb ↦ .inl ⟨r', q, hr, hu, hb, le_rfl, id⟩ }

/-! ### Wake-ups -/

theorem sendsAs_handshakeTimeout (h : Handle) : SendsAs A e ((handshakeTimeout h).run e).2 := by
  rw [run_handshakeTimeout]
  split
  · exact SendsAs.refl e
  split
  · exact SendsAs.of_frame rfl rfl rfl rfl (List.prefix_refl _)
  · rw [run_rearmHandshake]
    exact SendsAs.of_frame rfl rfl rfl rfl (List.prefix_refl _)

theorem sendsAs_keepAliveFired (h : Handle) : SendsAs A e ((keepAliveFired h).run e).2 := by
  rw [run_keepAliveFired]
  split
  · exact SendsAs.refl e
  · dsimp only
    refine SendsAs.trans ?_ (.of_sameTalk (sameTalk_armKeepAlive _))
    split
    · refine SendsAs.trans ?_ (sendsAs_transmit _ _)
      exact SendsAs.of_frame rfl rfl rfl rfl (List.prefix_refl _)
    · exact SendsAs.of_frame rfl rfl rfl rfl (List.prefix_refl _)

theorem sendsAs_retransmitFired (seq : UInt16) (h : Handle) :
    SendsAs A e ((retransmitFired seq h).run e).2 :=
  retransmitFired_cases e seq h (SendsAs.refl e) fun ring _ _ _ ↦
    ⟨SendsAs.of_frame rfl rfl rfl rfl (List.prefix_refl _), fun _ _ ↦
      SendsAs.of_frame rfl rfl rfl rfl (SendsAs.sent_of_utters
        (.inr ⟨(ring.slot seq).getD [], trivial, by simp⟩ : Utters (fun _ ↦ True) _ _))⟩

/-! ### Moving data -/

/-- An accepted payload goes into the send ring as the first bytes, a slot's worth, of the
datagram that carries it. -/
theorem sendsAs_sendData (payload : Bytes) : SendsAs A e ((sendData payload).run e).2 := by
  rcases run_sendData e payload with ⟨err, hr⟩ |
    ⟨r, ring, queue, hdr, bytes, -, hring, -, -, -, -, -, hr⟩
  · rw [hr]
    exact SendsAs.refl e
  rw [hr]
  have hsent : bytes ∈ Peer.transmissions (e.effects ++ [.transmit bytes] ++
      [.accepted e.session.info.sendNext]) := by
    simp only [Peer.transmissions_append, Peer.transmissions_transmit, Peer.transmissions_accepted,
      List.append_nil]
    exact List.mem_append_right _ (List.mem_singleton_self _)
  exact {
    sendInitial := rfl
    sent := by
      simp only [Peer.transmissions_append, Peer.transmissions_transmit,
        Peer.transmissions_accepted, List.append_nil]
      exact List.prefix_append _ _
    unacked := .inl ⟨rfl, id⟩
    wf := fun hwf r' hr' ↦ by
      cases hr'
      exact (hwf ring hring).store _ _
    ring := fun hwf r' hr' q b hq hb ↦ by
      cases hr'
      -- the new segment is cut from the datagram just sent; the others were held before
      rcases SegmentBuffer.WellFormed.isInUse_store_cases (hwf ring hring) bytes hq with ⟨-, hs⟩ | ⟨hu, hs⟩
      · rw [hs] at hb
        cases hb
        exact .inr ⟨bytes, hsent, ring.slotSize, by rw [SegmentBuffer.slotSize_store], rfl⟩
      · rw [hs] at hb
        exact .inl ⟨ring, q, hring, hu, hb, by rw [SegmentBuffer.slotSize_store], id⟩ }

/-- A cumulative acknowledgment that counts moves the window start past it and releases what it
acknowledges. -/
theorem sendsAs_acknowledge {ack : UInt16} (hA : A ack) : SendsAs A e ((acknowledge ack).run e).2 :=
  acknowledge_cases e ack (SendsAs.refl e) fun ring _ hs _ _ ↦ {
    sendInitial := rfl
    sent := List.prefix_refl _
    unacked := .inr (.inr ⟨ack, hA, rfl⟩)
    wf := fun hwf r' hr' ↦ by
      cases hr'
      exact (hwf ring hs).advanceBase _
    ring := fun hwf r' hr' q b hu hb ↦ by
      cases hr'
      have hwf₀ := hwf ring hs
      rw [SegmentBuffer.WellFormed.slot_advanceBase hwf₀ hu] at hb
      rw [SegmentBuffer.isInUse_advanceBase hwf₀, Bool.and_eq_true] at hu
      exact .inl ⟨ring, q, hs, hu.2, hb, by rw [SegmentBuffer.slotSize_advanceBase], id⟩ }

/-- Extended acknowledgments only release segments. -/
theorem sendsAs_acknowledgeEach (acks : List UInt16) :
    SendsAs A e ((acknowledgeEach acks).run e).2 := by
  refine acknowledgeEach_induction e acks (SendsAs.refl e) fun _ ring _ seq hs _ _ h ↦ h.trans ?_
  refine SendsAs.of_ring rfl rfl rfl (List.prefix_refl _) hs rfl
    (fun h ↦ h.unmark seq) (by rw [SegmentBuffer.slotSize_unmark]) fun hwf q hu ↦ ?_
  rw [SegmentBuffer.isInUse_unmark, Bool.and_eq_true, bne_iff_ne] at hu
  exact ⟨hu.1, hwf.slot_unmark_of_ne hu.2⟩

theorem sendsAs_drainHeld (fuel : Nat) : SendsAs A e ((drainHeld fuel).run e).2 :=
  drainHeld_induction e fuel (SendsAs.refl e)
    (fun _ _ _ _ _ _ h ↦ h.trans
      (SendsAs.of_frame rfl rfl rfl rfl (SendsAs.sent_of_silent (Silent.of_append rfl rfl))))
    fun _ _ _ _ h ↦ h.trans (SendsAs.of_frame rfl rfl rfl rfl (List.prefix_refl _))

theorem sendsAs_deliver (seq : UInt16) (payload : Bytes) :
    SendsAs A e ((deliver seq payload).run e).2 := by
  rw [run_deliver]
  refine SendsAs.trans ?_ (sendsAs_drainHeld _ _)
  exact SendsAs.of_frame rfl rfl rfl rfl (SendsAs.sent_of_silent (Silent.of_append rfl rfl))

/-- A segment taken while connected moves the window start only past its own acknowledgment. -/
theorem sendsAs_segmentArrives (c : Common) (acks : List UInt16) (payload : Bytes)
    (hA : c.flags.has .ack = true → A c.ack) :
    SendsAs A e ((segmentArrives c acks payload).run e).2 := by
  rw [run_segmentArrives]
  split
  · dsimp only
    have h₁ : SendsAs A e (if c.flags.has .ack then ((acknowledge c.ack).run e).2 else e) := by
      split
      · exact sendsAs_acknowledge e (hA ‹_›)
      · exact SendsAs.refl e
    generalize (if c.flags.has .ack then ((acknowledge c.ack).run e).2 else e) = e₁ at h₁ ⊢
    have h₂ : SendsAs A e (if acks.isEmpty then e₁ else ((acknowledgeEach acks).run e₁).2) := by
      split
      · exact h₁
      · exact h₁.trans (sendsAs_acknowledgeEach e₁ acks)
    generalize (if acks.isEmpty then e₁ else ((acknowledgeEach acks).run e₁).2) = e₂ at h₂ ⊢
    split
    · exact h₂
    · refine SendsAs.trans (h₂.trans ?_) (sendsAs_sendAck _)
      split
      · exact sendsAs_deliver e₂ _ _
      · split
        · split
          · exact SendsAs.of_frame rfl rfl rfl rfl (List.prefix_refl _)
          · exact SendsAs.refl e₂
        · exact SendsAs.refl e₂
  · exact sendsAs_sendAck e

theorem sendsAs_nulArrives (c : Common) (hA : c.flags.has .ack = true → A c.ack) :
    SendsAs A e ((nulArrives c).run e).2 := by
  rw [run_nulArrives]
  refine SendsAs.trans ?_ (sendsAs_sendAck _)
  split
  · rename_i h
    exact sendsAs_acknowledge e (hA (Bool.and_eq_true_iff.1 h).2)
  · exact SendsAs.refl e

/-! ### Each event -/

/-- A SYN moves the window start only by completing the handshake. -/
theorem sendsAs_onSyn (c : Common) (config : Config) : SendsAs A e ((onSyn c config).run e).2 := by
  have accepted : SendsAs A e { e with session := { e.session with info := { e.session.info with
      remote := some config, receiveInitial := c.seq, receiveAcked := c.seq } } } :=
    .of_frame rfl rfl rfl rfl (List.prefix_refl _)
  exact onSyn_cases (motive := SendsAs A e) e c config (fun _ ↦ sendsAs_replyRst e c)
    (fun _ _ _ ↦ accepted.trans (sendsAs_enter _ (by decide)))
    (fun _ _ _ ↦ accepted.trans ((sendsAs_establish _).trans (sendsAs_sendAck _)))
    (fun _ ↦ (sendsAs_replyRst e c).trans (sendsAs_reset _))
    (fun _ _ _ ↦ (sendsAs_establish e).trans (sendsAs_sendAck _))
    (fun _ _ _ ↦ sendsAs_sendSyn e _) (fun _ _ ↦ sendsAs_sendAck e)
    (fun _ _ ↦ (sendsAs_replyRst e c).trans (sendsAs_enter _ (by decide))) (fun _ ↦ SendsAs.refl e)

theorem sendsAs_onRst : SendsAs A e (onRst.run e).2 :=
  onRst_cases (motive := SendsAs A e) e (fun _ ↦ sendsAs_reset e)
    (fun _ ↦ (sendsAs_sendRst e).trans (sendsAs_enter _ (by decide)))
    (fun _ ↦ sendsAs_enter e (by decide)) (fun _ ↦ SendsAs.refl e)

section Arrivals

variable {c : Common} (hA : c.flags.has .ack = true → A c.ack)
include hA

theorem sendsAs_onNul : SendsAs A e ((onNul c).run e).2 :=
  onNul_cases (motive := SendsAs A e) e c (fun _ ↦ sendsAs_replyRst e c)
    (fun _ _ ↦ (sendsAs_establish e).trans (sendsAs_nulArrives _ c hA))
    (fun _ _ ↦ sendsAs_replyRst e c) (fun _ ↦ sendsAs_nulArrives e c hA) (fun _ ↦ SendsAs.refl e)

theorem sendsAs_onEack (acks : List UInt16) (payload : Bytes) :
    SendsAs A e ((onEack c acks payload).run e).2 :=
  onEack_cases (motive := SendsAs A e) e c acks payload (fun _ ↦ sendsAs_replyRst e c)
    (fun _ ↦ (sendsAs_replyRst e c).trans (sendsAs_reset _))
    (fun _ ↦ sendsAs_segmentArrives e c acks payload hA) (fun _ ↦ SendsAs.refl e)

theorem sendsAs_onAck (payload : Bytes) : SendsAs A e ((onAck c payload).run e).2 :=
  onAck_cases (motive := SendsAs A e) e c payload (fun _ ↦ sendsAs_replyRst e c)
    (fun _ _ ↦ (sendsAs_establish e).trans (sendsAs_segmentArrives _ c [] payload hA))
    (fun _ _ ↦ sendsAs_replyRst e c) (fun _ ↦ sendsAs_segmentArrives e c [] payload hA)
    (fun _ ↦ SendsAs.refl e)

end Arrivals

/-- A datagram that arrives moves the window start only past the acknowledgment it carries, or
by completing the handshake. -/
theorem sendsAs_receive (datagram : Bytes) :
    SendsAs (Segment.CarriesAck datagram) e ((receive datagram).run e).2 := by
  refine receive_cases e datagram (SendsAs.refl e) fun seg _ hseg ↦ ?_
  -- the acknowledgment a NUL or an acknowledgment carries is the datagram's
  have hA : ∀ c, seg.header.common = c → seg.header.kind ≠ .syn → seg.header.kind ≠ .rst →
      c.flags.has .ack = true → Segment.CarriesAck datagram c.ack :=
    fun c hc hsyn hrst hack ↦ ⟨seg, hseg, hsyn, hrst, hc ▸ hack, by rw [hc]⟩
  unfold onSegment
  split
  · rename_i c config hh
    exact sendsAs_onSyn e c config
  · exact sendsAs_onRst e
  · rename_i c hh
    exact sendsAs_onNul e (hA c (by rw [hh]; rfl) (by rw [hh]; nofun) (by rw [hh]; nofun))
  · rename_i c n hh
    exact sendsAs_onAck e (hA c (by rw [hh]; rfl) (by rw [hh]; nofun) (by rw [hh]; nofun)) _
  · rename_i c n acks hh
    exact sendsAs_onEack e (hA c (by rw [hh]; rfl) (by rw [hh]; nofun) (by rw [hh]; nofun)) _ _

theorem sendsAs_timerFired (hd : Handle) (timer : Timer) :
    SendsAs A e ((timerFired hd timer).run e).2 := by
  refine timerFired_cases (motive := SendsAs A e) e hd timer (SendsAs.refl e)
    (fun seq _ _ _ ↦ sendsAs_retransmitFired e seq hd)
    (fun seq _ _ _ ↦ (sendsAs_retransmitFired e seq hd).trans
      ((sendsAs_sendRst _).trans (sendsAs_enter _ (by decide))))
    (fun _ _ ↦ sendsAs_keepAliveFired e hd) ?retriedSyn ?retriedSynAck ?finished
  case retriedSyn =>
    intro _ _
    rw [run_bind]
    refine (sendsAs_handshakeTimeout e hd).trans ?_
    split
    · exact sendsAs_sendSyn _ none
    · exact sendsAs_reset _
    · exact SendsAs.refl _
  case retriedSynAck =>
    intro _ _
    rw [run_bind]
    refine (sendsAs_handshakeTimeout e hd).trans ?_
    split
    · rw [run_bind, run_info]
      exact sendsAs_sendSyn _ _
    · exact sendsAs_reset _
    · exact SendsAs.refl _
  case finished =>
    intro _ _ _
    refine SendsAs.trans ?_ (sendsAs_enter _ (by decide))
    exact SendsAs.of_frame rfl rfl rfl rfl (List.prefix_refl _)

theorem sendsAs_close : SendsAs A e (close.run e).2 :=
  close_cases (motive := SendsAs A e) e (SendsAs.refl e) (fun _ ↦ sendsAs_enter e (by decide))
    (fun _ ↦ (sendsAs_transmit e _).trans (sendsAs_enter _ (by decide)))
    (fun _ ↦ (sendsAs_sendRst e).trans (sendsAs_enter _ (by decide)))
    (fun _ ↦ (sendsAs_sendRst e).trans (sendsAs_enter _ (by decide)))

theorem sendsAs_send (payload : Bytes) : SendsAs A e ((send payload).run e).2 :=
  send_cases (motive := SendsAs A e) e payload (SendsAs.refl e) fun _ ↦ sendsAs_sendData e payload

end Act

namespace Endpoint

open Act

/-- **How an event moves the sending half.** Every event but an opening keeps the initial
number and only adds transmissions; it moves the window start only by completing the handshake
or past the acknowledgment carried by the datagram that arrives; and the send ring holds only
what it held before, or the first bytes of a datagram the event transmitted. -/
theorem sendsAs_handle (e : Endpoint) {ev : Event} (hopen : ∀ iss, ev ≠ .connect iss ∧ ev ≠ .wait iss) :
    SendsAs (fun a ↦ ∃ d, ev = .receive d ∧ Segment.CarriesAck d a) (e.prepare ev) (e.handle ev) := by
  cases ev with
  | connect iss => exact absurd rfl (hopen iss).1
  | wait iss => exact absurd rfl (hopen iss).2
  | close => exact sendsAs_close _
  | invalidate => exact sendsAs_enter _ nofun
  | send payload =>
    simp only [handle, Event.act, run_bind, run_pure]
    exact sendsAs_send _ payload
  | receive datagram => exact (sendsAs_receive _ datagram).mono fun a h ↦ ⟨datagram, rfl, h⟩
  | fire hd timer => exact sendsAs_timerFired _ hd timer

end Endpoint

end ReliableDatagram
