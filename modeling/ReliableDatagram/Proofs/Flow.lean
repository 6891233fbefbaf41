import ReliableDatagram.Proofs.Talk
/-!
# What a side keeps while data flows

Once connected, a side moves payloads both ways. This module shows that each action of the data
path keeps `Endpoint.Talks`, for a connected side (`Endpoint.Flowing`):

* sending: an accepted payload is the next of the side's accepted payloads, and its segment,
  numbered after those before it, is both stored and transmitted; the ledger gains the payload
  (`Ledger.accept`);
* acknowledgments only release stored segments;
* receiving: a payload the partner accepted is delivered when its number is the next expected
  one and held otherwise, and the delivery loop delivers held payloads in number order;
* retransmitting resends a stored segment, or nothing when the slot is out of use.

The one argument of its own is the delivery (`Talks.deliverNext`): the payload delivered carries
the number after the last delivered one, which is the partner's initial number plus the count
of deliveries, and while the partner has accepted fewer than `2^16` payloads that number names
exactly the partner's next payload (`Numbered.extend`).
-/

namespace ReliableDatagram

/-! ### The ledger's rings -/

namespace Ledger

variable {l : Ledger} {ring : SegmentBuffer}

/-- The ledger once the side has accepted one more payload. -/
@[simps]
def accept (l : Ledger) (p : Bytes) : Ledger := { l with accepted := l.accepted ++ [p] }

theorem Stores.advance (h : l.Stores ring) (k : UInt16) : l.Stores (ring.advanceBase k) :=
  ⟨h.wf.advanceBase k, by rw [SegmentBuffer.slotSize_advanceBase]; exact h.room, h.true_to.advanceBase h.wf k⟩

theorem Stores.unmark (h : l.Stores ring) (p : UInt16) : l.Stores (ring.unmark p) :=
  ⟨h.wf.unmark p, by rw [SegmentBuffer.slotSize_unmark]; exact h.room, h.true_to.unmark h.wf p⟩

/-- A send ring stays true to a side that accepts one more payload. -/
theorem Stores.accept (h : l.Stores ring) (p : Bytes) : (l.accept p).Stores ring :=
  ⟨h.wf, h.room, h.true_to.mono fun _ _ hb ↦ hb.mono (List.prefix_append _ _)⟩

/-- Storing a segment true to the side that fits the partner's segment size. -/
theorem Stores.store (h : l.Stores ring) {n : UInt16} {bytes : Bytes}
    (hb : TrueTo l.iss l.config l.accepted bytes)
    (hlen : bytes.length ≤ l.peerConfig.maxSegmentSize.toNat) : l.Stores (ring.store n bytes).2 := by
  refine ⟨h.wf.store n bytes, by rw [SegmentBuffer.slotSize_store]; exact h.room, ?_⟩
  refine h.true_to.store h.wf ?_
  rw [List.take_of_length_le (hlen.trans h.room)]
  exact hb

/-- The bytes a send ring holds for any number are true to the side: those of a number in use
by the ring's law, the empty read of any other trivially. -/
theorem Stores.trueTo_slot (h : l.Stores ring) (q : UInt16) :
    TrueTo l.iss l.config l.accepted ((ring.slot q).getD []) := by
  cases hu : ring.isInUse q with
  | true =>
    obtain ⟨b, hb, htrue⟩ := h.true_to q hu
    rw [hb]
    exact htrue
  | false =>
    rw [h.wf.slot_getD_of_not_isInUse hu]
    exact trueTo_nil _ _ _

theorem Holds.advance (h : l.Holds ring) (k : UInt16) : l.Holds (ring.advanceBase k) :=
  ⟨h.wf.advanceBase k, by rw [SegmentBuffer.slotSize_advanceBase]; exact h.room, h.held.advanceBase h.wf k⟩

theorem Holds.accept (h : l.Holds ring) (p : Bytes) : (l.accept p).Holds ring :=
  ⟨h.wf, h.room, h.held⟩

/-- Holding a payload the partner accepted under its number, that fits the side's segment size. -/
theorem Holds.store (h : l.Holds ring) {n : UInt16} {q : Bytes}
    (hn : Numbered l.peerIss l.peerAccepted n q) (hq : q.length ≤ l.config.maxSegmentSize.toNat) :
    l.Holds (ring.store n q).2 := by
  refine ⟨h.wf.store n q, by rw [SegmentBuffer.slotSize_store]; exact h.room, ?_⟩
  refine h.held.store h.wf ?_
  rw [List.take_of_length_le (hq.trans h.room)]
  exact hn

end Ledger

/-! ### Data segments -/

namespace Header

/-- A data segment carrying a payload under that payload's number is true to its side. -/
theorem trueTo_encode_data {seq ack : UInt16} {p : Bytes} {sealed : Header} {bytes : Bytes}
    (he : (buildData seq ack p.length.toUInt16).encode p = .ok (sealed, bytes))
    {iss : UInt16} {config : Config} {acc : List Bytes} (hn : Numbered iss acc seq p) :
    TrueTo iss config acc bytes := by
  intro seg hseg
  obtain rfl := parse_encode (formed_buildData _ _ _) he hseg
  obtain ⟨-, -, sum, rfl, -⟩ := encode_eq_ok he
  refine ⟨fun c cfg hc ↦ (by cases hc), fun _ ↦ ?_⟩
  rw [common_setCommon]
  exact hn

/-- A data segment is the payload behind an acknowledgment header. -/
theorem length_encode_data {seq ack : UInt16} {p : Bytes} {sealed : Header} {bytes : Bytes}
    (he : (buildData seq ack p.length.toUInt16).encode p = .ok (sealed, bytes)) :
    bytes.length = ackHeaderLength + p.length := by
  obtain ⟨-, -, sum, rfl, rfl⟩ := encode_eq_ok he
  rw [List.length_append, layout, List.length_append, Common.length_bytes, extension_setCommon]
  simp [buildData, extension, Word.length_ofUInt16, ackHeaderLength, commonHeaderLength]

end Header

namespace Endpoint

variable {e : Endpoint} {l : Ledger} {t : Prop}

/-- A connected side that keeps what it keeps towards its partner. -/
structure Flowing (e : Endpoint) (l : Ledger) (t : Prop) : Prop where
  talks : e.Talks l t
  connected : e.session.state = .connected

namespace Flowing

/-- A connected side has accepted its partner's SYN. -/
theorem engaged (h : e.Flowing l t) :
    e.session.info.receiveInitial = l.peerIss ∧ e.session.info.remote = some l.peerConfig :=
  h.talks.engaged (by rw [h.connected]; rfl)

/-- A connected side is not opening. -/
theorem not_opening (h : e.Flowing l t) : e.session.state.isOpening = false := by
  rw [h.connected]
  rfl

theorem of_same {e' : Endpoint} (h : e.Flowing l t) (hs : SameTalk e e') : e'.Flowing l t :=
  ⟨h.talks.of_same hs, hs.1.trans h.connected⟩

/-- Answering with an acknowledgment. -/
theorem sendAck (h : e.Flowing l t) : (Act.sendAck.run e).2.Flowing l t :=
  ⟨h.talks.sendAck h.engaged, (Act.spoken_sendAck e).state.trans h.connected⟩

/-- Replacing the send ring by one true to the side; the retransmission queue, the schedule and
the oldest unacknowledged number go along. -/
theorem setSendRing (h : e.Flowing l t) {ring : SegmentBuffer}
    (hs : l.Stores ring) (sc : Schedule)
    (q : Option RetransmitQueue) (u : UInt16) :
    Flowing { e with
      schedule := sc
      session := { e.session with
        sendRing := some ring, retransmit := q
        info := { e.session.info with sendUnacked := u } } } l t where
  talks :=
    { config := h.talks.config, sendInitial := h.talks.sendInitial, passive := h.talks.passive,
      sendNext := h.talks.sendNext
      stored := fun ring' hr ↦ by
        cases hr
        exact hs
      held := h.talks.held, true_to := h.talks.true_to, answers := h.talks.answers
      quiet := h.talks.quiet, engaged := h.talks.engaged, connecting := h.talks.connecting
      receiveAcked := h.talks.receiveAcked, ordered := h.talks.ordered, entry := h.talks.entry }
  connected := h.connected

/-- Replacing the receive ring by one true to the partner. -/
theorem setReceiveRing (h : e.Flowing l t) {ring : SegmentBuffer} (hr : l.Holds ring) :
    Flowing { e with session := { e.session with receiveRing := some ring } } l t where
  talks :=
    { config := h.talks.config, sendInitial := h.talks.sendInitial, passive := h.talks.passive,
      sendNext := h.talks.sendNext, stored := h.talks.stored
      held := fun ring' hr' ↦ by
        cases hr'
        exact hr
      true_to := h.talks.true_to, answers := h.talks.answers
      quiet := h.talks.quiet, engaged := h.talks.engaged, connecting := h.talks.connecting
      receiveAcked := h.talks.receiveAcked, ordered := h.talks.ordered, entry := h.talks.entry }
  connected := h.connected

/-! ### Acknowledgments release stored segments -/

theorem acknowledge (h : e.Flowing l t) (ack : UInt16) : ((Act.acknowledge ack).run e).2.Flowing l t :=
  Act.acknowledge_cases (motive := fun x ↦ x.Flowing l t) e ack h fun ring _ hs _ _ ↦
    h.setSendRing ((h.talks.stored ring hs).advance _) _ _ _

theorem acknowledgeEach (h : e.Flowing l t) (acks : List UInt16) :
    ((Act.acknowledgeEach acks).run e).2.Flowing l t :=
  Act.acknowledgeEach_induction (motive := fun x ↦ x.Flowing l t) e acks h
    fun e₁ ring _ seq hs _ _ h₁ ↦
      h₁.setSendRing ((h₁.talks.stored ring hs).unmark seq) _ _ e₁.session.info.sendUnacked

/-! ### Deliveries -/

/-- Delivering the payload the partner accepted under the number after the last delivered
one: the deliveries grow by exactly the partner's next payload. -/
theorem deliverNext (h : e.Flowing l t) {p : Bytes}
    (hn : Numbered l.peerIss l.peerAccepted (e.session.info.receiveAcked + 1) p) :
    Flowing { e with effects := e.effects ++ [.deliver p], session := { e.session with
      info := { e.session.info with receiveAcked := e.session.info.receiveAcked + 1 } } } l t where
  talks :=
    { config := h.talks.config, sendInitial := h.talks.sendInitial, passive := h.talks.passive,
      sendNext := h.talks.sendNext, stored := h.talks.stored, held := h.talks.held
      true_to := by simpa using h.talks.true_to
      answers := by simpa using h.talks.answers
      quiet := fun hop ↦ absurd (h.not_opening.symm.trans hop) Bool.false_ne_true
      engaged := h.talks.engaged
      connecting := fun hc ↦ by
        have hc' : e.session.state = .connected := h.connected
        simp [hc'] at hc
      receiveAcked := fun _ ↦ by
        show e.session.info.receiveAcked + 1 = _
        rw [h.talks.receiveAcked h.connected]
        simp only [Side.deliveries_append, Side.deliveries_deliver, ← List.append_assoc,
          List.length_append, List.length_singleton, Nat.toUInt16_eq, UInt16.ofNat_add,
          UInt16.ofNat_one, UInt16.add_assoc]
      ordered := fun hlt ↦ by
        rw [Side.deliveries_append, Side.deliveries_deliver, ← List.append_assoc]
        -- the number after the last delivered one names the partner's next payload
        have hnext : Numbered l.peerIss l.peerAccepted
            (l.peerIss + (l.delivered ++ Side.deliveries e.effects).length.toUInt16 + 1) p := by
          rw [← h.talks.receiveAcked h.connected]
          exact hn
        exact hnext.extend (h.talks.ordered hlt) hlt
      entry := h.talks.entry }
  connected := h.connected

/-- The delivery loop delivers held payloads while they continue the run. -/
theorem drainHeld (h : e.Flowing l t) (fuel : Nat) : ((Act.drainHeld fuel).run e).2.Flowing l t := by
  refine Act.drainHeld_induction (motive := fun x ↦ x.Flowing l t) e fuel h
    (fun _ ring _ hr hu hp h₁ ↦ ?_) fun _ ring hr _ h₁ ↦
      h₁.setReceiveRing ((h₁.talks.held ring hr).advance 1)
  -- the payload held after the last delivered number is the partner's next one
  have hh := h₁.talks.held ring hr
  obtain ⟨p, hp', hn⟩ := hh.held _ hu
  rw [hp] at hp'
  cases hp'
  exact (h₁.deliverNext hn).setReceiveRing (hh.advance 1)

/-- Delivering the next expected payload, then the held run after it. -/
theorem deliver (h : e.Flowing l t) {seq : UInt16} (hseq : seq = e.session.info.receiveAcked + 1)
    {p : Bytes} (hn : Numbered l.peerIss l.peerAccepted seq p) :
    ((Act.deliver seq p).run e).2.Flowing l t := by
  subst hseq
  rw [Act.run_deliver]
  exact (h.deliverNext hn).drainHeld _

/-! ### Arrivals -/

/-- A segment arriving while connected, carrying a payload the partner accepted under the
segment's number and fitting the side's segment size. -/
theorem segmentArrives (h : e.Flowing l t) (c : Common) (acks : List UInt16) {payload : Bytes}
    (hn : payload ≠ [] → Numbered l.peerIss l.peerAccepted c.seq payload)
    (hlen : payload.length ≤ l.config.maxSegmentSize.toNat) :
    ((Act.segmentArrives c acks payload).run e).2.Flowing l t := by
  rw [Act.run_segmentArrives]
  split
  · dsimp only
    -- the acknowledgments first: they only release stored segments
    have h₁ : (if c.flags.has .ack then ((Act.acknowledge c.ack).run e).2 else e).Flowing l t := by
      split
      · exact h.acknowledge c.ack
      · exact h
    generalize (if c.flags.has .ack then ((Act.acknowledge c.ack).run e).2 else e) = e₁ at h₁ ⊢
    have h₂ : (if acks.isEmpty then e₁ else ((Act.acknowledgeEach acks).run e₁).2).Flowing l t := by
      split
      · exact h₁
      · exact h₁.acknowledgeEach acks
    generalize (if acks.isEmpty then e₁ else ((Act.acknowledgeEach acks).run e₁).2) = e₂ at h₂ ⊢
    -- then the payload, delivered or held, and the answer
    split
    · exact h₂
    · rename_i hp
      have hn' := hn (by simpa using hp)
      refine Flowing.sendAck ?_
      split
      · rename_i hseq
        exact h₂.deliver hseq hn'
      · split
        · rename_i ring hring
          split
          · exact h₂.setReceiveRing ((h₂.talks.held ring hring).store hn' hlen)
          · exact h₂
        · exact h₂
  · exact h.sendAck

/-- A NUL arriving while connected. -/
theorem nulArrives (h : e.Flowing l t) (c : Common) : ((Act.nulArrives c).run e).2.Flowing l t := by
  rw [Act.run_nulArrives]
  refine Flowing.sendAck ?_
  split
  · exact h.acknowledge c.ack
  · exact h

/-! ### Sending -/

/-- Offering a payload: when the session accepts it, the ledger gains it. -/
theorem sendData (h : e.Flowing l t) (p : Bytes) :
    ((Act.sendData p).run e).2.Flowing
      (if ((Act.sendData p).run e).1.toBool then l.accept p else l) t := by
  rcases Act.run_sendData e p with ⟨err, hr⟩ |
    ⟨r, ring, queue, hdr, bytes, hrem, hring, hq, hne, hlen, -, henc, hr⟩
  · rw [hr]
    exact h
  rw [hr]
  show Flowing _ (l.accept p) t
  have hnext := h.talks.sendNext
  -- the payload goes out as the next number after those accepted before it
  have hn : Numbered l.iss (l.accepted ++ [p]) e.session.info.sendNext p :=
    ⟨l.accepted.length, by simp, hnext⟩
  have htrue : TrueTo l.iss l.config (l.accepted ++ [p]) bytes :=
    Header.trueTo_encode_data henc hn
  -- the partner's segment size bounds the segment, and the send ring has room for it
  have hbytes : bytes.length ≤ l.peerConfig.maxSegmentSize.toNat := by
    have hpos : 0 < p.length := List.length_pos_iff.2 hne
    have hr : r = l.peerConfig := Option.some_injective _ (hrem.symm.trans h.engaged.2)
    rw [Header.length_encode_data henc, ← hr]
    unfold ackHeaderLength at hlen ⊢
    omega
  have hstore : (l.accept p).Stores (ring.store e.session.info.sendNext bytes).2 :=
    ((h.talks.stored ring hring).accept p).store htrue hbytes
  refine ⟨{
      config := h.talks.config, sendInitial := h.talks.sendInitial, passive := h.talks.passive
      sendNext := ?_, stored := ?_, held := ?_, true_to := ?_, answers := ?_, quiet := ?_
      engaged := h.talks.engaged, connecting := h.talks.connecting
      receiveAcked := ?_, ordered := ?_, entry := h.talks.entry }, h.connected⟩
  · show e.session.info.sendNext + 1 = l.iss + 1 + (l.accepted ++ [p]).length.toUInt16
    rw [hnext]
    simp only [List.length_append, List.length_singleton, Nat.toUInt16_eq, UInt16.ofNat_add,
      UInt16.ofNat_one, UInt16.add_assoc]
  · intro ring' hr'
    cases hr'
    exact hstore
  · intro ring' hr'
    exact (h.talks.held ring' hr').accept p
  · intro d hd
    simp only [Peer.transmissions_append, Peer.transmissions_transmit,
      Peer.transmissions_accepted, List.append_nil, List.mem_append, List.mem_singleton] at hd
    rcases hd with hd | rfl
    · exact (h.talks.true_to d hd).mono (List.prefix_append _ _)
    · exact htrue
  · intro d hd _
    simp only [Peer.transmissions_append, Peer.transmissions_transmit,
      Peer.transmissions_accepted, List.append_nil, List.mem_append, List.mem_singleton] at hd
    rcases hd with hd | rfl
    · exact h.talks.answers d hd ‹_›
    · exact h.engaged
  · intro hop
    exact absurd (h.not_opening.symm.trans hop) Bool.false_ne_true
  · intro hc
    simp only [Ledger.accept_peerIss, Ledger.accept_delivered, Side.deliveries_append,
      Side.deliveries_transmit, Side.deliveries_accepted, List.append_nil]
    exact h.talks.receiveAcked hc
  · intro hlt
    simp only [Ledger.accept_peerAccepted, Ledger.accept_delivered, Side.deliveries_append,
      Side.deliveries_transmit, Side.deliveries_accepted, List.append_nil]
    exact h.talks.ordered hlt

/-! ### Wake-ups while connected -/

/-- A retransmission wake-up resends what the send ring holds for its number. -/
theorem retransmitFired (h : e.Flowing l t) (seq : UInt16) (hd : Handle) :
    ((Act.retransmitFired seq hd).run e).2.Flowing l t := by
  cases hs : e.session.sendRing with
  | none =>
    have hrun : ((Act.retransmitFired seq hd).run e).2 = e := by
      simp only [Act.retransmitFired, Act.run_bind, Act.run_session, hs]
      rfl
    rw [hrun]
    exact h
  | some ring =>
  cases hq : e.session.retransmit with
  | none =>
    have hrun : ((Act.retransmitFired seq hd).run e).2 = e := by
      simp only [Act.retransmitFired, Act.run_bind, Act.run_session, hs, hq]
      rfl
    rw [hrun]
    exact h
  | some queue =>
    rw [Act.run_retransmitFired e hs hq seq hd]
    dsimp only
    have hstore := h.talks.stored ring hs
    -- the queue and the schedule are not what a side is judged by
    have h₁ : ∀ (sc : Schedule) (q : RetransmitQueue),
        Flowing { e with schedule := sc, session := { e.session with retransmit := some q } } l t :=
      fun _ _ ↦ h.of_same ⟨rfl, rfl, rfl, rfl, rfl⟩
    split
    · exact ⟨(h₁ _ _).talks.speak (hstore.trueTo_slot seq) (fun _ ↦ h.engaged) _, h.connected⟩
    · exact h₁ _ _
    · exact h₁ _ _

/-- A keep-alive wake-up sends a NUL after an idle period. -/
theorem keepAliveFired (h : e.Flowing l t) (hd : Handle) :
    ((Act.keepAliveFired hd).run e).2.Flowing l t := by
  rw [Act.run_keepAliveFired]
  split
  · exact h
  · dsimp only
    have h₁ : Flowing { e with session := { e.session with
        timers := { e.session.timers with keepAlive := none } } } l t :=
      h.of_same ⟨rfl, rfl, rfl, rfl, rfl⟩
    refine Flowing.of_same ?_ (sameTalk_armKeepAlive _)
    split
    · refine ⟨h₁.talks.transmit (Header.formed_buildNul _ _) (fun c cfg hc ↦ by cases hc)
        (fun _ _ ↦ h₁.engaged), ?_⟩
      exact (Act.spoken_transmit _ _).state.trans h₁.connected
    · exact h₁

end Flowing

end Endpoint

end ReliableDatagram
