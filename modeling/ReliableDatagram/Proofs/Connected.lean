import ReliableDatagram.Proofs.Invariant
/-!
# A connected session keeps its invariant

While connected, a session moves its windows: cumulative and extended acknowledgments release
sent segments, accepted payloads fill the send window, and arriving payloads are delivered or
held. `Endpoint.Established` is the invariant of a connected endpoint, and each lemma here takes
one of these operations and shows that it keeps a connected endpoint established. None of them
changes the state or arms a handshake or disconnect wake-up, so the timer half is carried by the
queue lemmas of `Synced`, and the windows by the lemmas of `Session.Windows`.

The delivery loop is the one place with an argument of its own. Between two iterations the
receive ring starts one number past the last delivered one, where `Windows` wants two: the ring
is moved by one at the end of each iteration, and the loop runs until it meets a gap. Its
invariant is therefore `Windows` for the number before the last delivered one, and it runs out
of neither fuel nor held segments before it meets the gap: each delivery frees a slot, and the
fuel exceeds the ring's capacity.
-/

namespace ReliableDatagram

/-! ### Segments arriving while connected -/

namespace Act

variable (e : Endpoint)

/-- A segment in the receive window has its acknowledgments taken first; a payload is then
delivered when it is the next expected one, or held when its slot is free, and answered. A
segment outside the window is only answered. -/
theorem run_segmentArrives (c : Common) (acks : List UInt16) (payload : Bytes) :
    ((segmentArrives c acks payload).run e).2 =
      if Seq.inWindow c.seq (e.session.info.receiveAcked + 1)
          e.session.info.config.maxOutstanding.toUInt16 then
        let e₁ := if c.flags.has .ack then ((acknowledge c.ack).run e).2 else e
        let e₂ := if acks.isEmpty then e₁ else ((acknowledgeEach acks).run e₁).2
        if payload.isEmpty then e₂
        else (sendAck.run
          (if c.seq = e₂.session.info.receiveAcked + 1 then ((deliver c.seq payload).run e₂).2
          else match e₂.session.receiveRing with
            | some ring =>
              if ring.hasSlot c.seq && !ring.isInUse c.seq then
                { e₂ with session := { e₂.session with receiveRing := some (ring.store c.seq payload).2 } }
              else e₂
            | none => e₂)).2
      else (sendAck.run e).2 := by
  unfold segmentArrives
  by_cases hw : Seq.inWindow c.seq (e.session.info.receiveAcked + 1)
      e.session.info.config.maxOutstanding.toUInt16 = true
  swap
  · simp only [run_bind, run_inReceiveWindow, hw, Bool.not_false, ↓reduceIte, Bool.false_eq_true]
    rfl
  simp only [run_bind, run_inReceiveWindow, hw, Bool.not_true, ↓reduceIte, Bool.false_eq_true]
  by_cases ha : c.flags.has .ack = true <;> by_cases hk : acks.isEmpty = true <;>
    simp only [ha, hk, ↓reduceIte, Bool.not_true, Bool.not_false, Bool.false_eq_true, run_bind]
  -- the acknowledgments leave some endpoint, where the payload is taken the same way
  all_goals
    by_cases hp : payload.isEmpty = true
    · simp only [hp, ↓reduceIte, run_pure]
    simp only [hp, ↓reduceIte, Bool.false_eq_true, run_bind, run_info]
    split
    · rename_i hs
      simp only [hs, ↓reduceIte, run_bind]
    · rename_i hs
      simp only [hs, ↓reduceIte, run_bind, run_session]
      -- a payload out of order is held when its slot is free: the program and the statement
      -- read the same receive ring, taken apart once for both
      generalize (Endpoint.session _).receiveRing = R
      cases R with
      | none => rfl
      | some ring =>
        by_cases hf : (ring.hasSlot c.seq && !ring.isInUse c.seq) = true
        · simp only [hf, ↓reduceIte, run_bind, run_modifySession]
        · simp only [hf, ↓reduceIte, Bool.false_eq_true]

/-- A NUL's acknowledgment counts when the NUL lies in the receive window; it is answered
either way. -/
theorem run_nulArrives (c : Common) :
    ((nulArrives c).run e).2 =
      (sendAck.run (if Seq.inWindow c.seq (e.session.info.receiveAcked + 1)
          e.session.info.config.maxOutstanding.toUInt16 && c.flags.has .ack
        then ((acknowledge c.ack).run e).2 else e)).2 := by
  by_cases hc : (Seq.inWindow c.seq (e.session.info.receiveAcked + 1)
      e.session.info.config.maxOutstanding.toUInt16 && c.flags.has .ack) = true
  · simp only [nulArrives, run_bind, run_inReceiveWindow, hc, ↓reduceIte]
  · simp only [nulArrives, run_bind, run_inReceiveWindow, hc, ↓reduceIte, Bool.false_eq_true]

end Act

namespace Endpoint

variable {e : Endpoint}

open Act

/-- A connected endpoint that has the invariant. -/
structure Established (e : Endpoint) : Prop where
  invariant : e.Invariant
  connected : e.session.state = .connected

namespace Established

/-- Speaking to the peer keeps an endpoint established. -/
theorem spoken {e' : Endpoint} (h : e.Established) (hs : Spoken e e') : e'.Established :=
  ⟨h.invariant.spoken hs, by rw [hs.2]; exact h.connected⟩

/-- An established endpoint stays so through a step that keeps its schedule in step, its state,
passive flag and configuration, its handshake, keep-alive and disconnect wake-ups, and that
leaves its windows aligned. -/
theorem of_step {e' : Endpoint} (h : e.Established) (hsync : e'.Synced)
    (hs : e'.session.state = e.session.state ∧ e'.session.info.passive = e.session.info.passive ∧
      e'.session.info.config = e.session.info.config)
    (ht : e'.session.timers.handshake = e.session.timers.handshake ∧
      e'.session.timers.keepAlive = e.session.timers.keepAlive ∧
      e'.session.timers.disconnect = e.session.timers.disconnect)
    (hw : e'.session.Windowed) : e'.Established := by
  obtain ⟨hst, hp, hc⟩ := hs
  obtain ⟨hh, hk, hd⟩ := ht
  have hallowed := h.invariant.allowed
  unfold Session.TimersAllowed at hallowed
  rw [h.connected] at hallowed
  obtain ⟨hh₀, hd₀, hk₀⟩ := hallowed
  have hst' : e'.session.state = .connected := hst.trans h.connected
  refine ⟨Invariant.of_connected hsync hst' ?_ hw (by rw [hc]; exact h.invariant.config), hst'⟩
  unfold Session.TimersAllowed
  rw [hst']
  refine ⟨?_, ?_, fun hp' ↦ ?_⟩
  · exact hh.trans hh₀
  · exact hd.trans hd₀
  · exact hk.trans (hk₀ (hp ▸ hp'))

/-- The windows of an established endpoint, named. -/
theorem windows (h : e.Established) :
    ∃ r send queue recv, e.session.info.remote = some r ∧ e.session.sendRing = some send ∧
      e.session.retransmit = some queue ∧ e.session.receiveRing = some recv ∧
      Session.Windows e.session.info r send queue recv :=
  h.invariant.windowed h.connected

/-- A cumulative acknowledgment moves the send windows to the number after it, when it
acknowledges something sent. -/
theorem acknowledge (h : e.Established) (ack : UInt16) : ((acknowledge ack).run e).2.Established := by
  obtain ⟨r, send, queue, recv, hr, hs, hq, hrecv, hw⟩ := h.windows
  have hsync := h.invariant.synced.acknowledge h.invariant.queue_small ack
  rw [run_acknowledge e hs hq] at hsync ⊢
  split
  · exact h
  · rename_i hk
    rw [if_neg hk] at hsync
    simp only [not_or, gt_iff_lt, UInt16.not_lt] at hk
    -- the acknowledgment lies between the oldest unacknowledged number and the next to send
    have hle : (Seq.offset (ack + 1) e.session.info.sendUnacked).toNat ≤
        (Seq.offset e.session.info.sendNext e.session.info.sendUnacked).toNat := by
      rw [← hw.send_base]
      exact UInt16.le_iff_toNat_le.1 hk.1
    refine h.of_step hsync ⟨rfl, rfl, rfl⟩ ⟨rfl, rfl, rfl⟩ ⟨r, _, _, recv, hr, rfl, rfl, hrecv, ?_⟩
    rw [hw.send_base]
    exact hw.acknowledge hle _

/-- Each number an extended acknowledgment names that is in use is released. -/
theorem acknowledgeEach (h : e.Established) (acks : List UInt16) :
    ((acknowledgeEach acks).run e).2.Established := by
  refine acknowledgeEach_induction e acks h fun e₁ send queue seq hs hq hu h₁ ↦ ?_
  obtain ⟨r, send', queue', recv, hr, hs', hq', hrecv, hw⟩ := h₁.windows
  cases hs.symm.trans hs'
  cases hq.symm.trans hq'
  have hsync : Synced { e₁ with
      schedule := (queue.remove e₁.schedule seq).2
      session := { e₁.session with
        sendRing := some (send.unmark seq)
        retransmit := some (queue.remove e₁.schedule seq).1 } } :=
    Synced.of_queue rfl (RetransmitQueue.fresh_remove h₁.invariant.synced.fresh _)
      (RetransmitQueue.tracks_remove h₁.invariant.synced.fresh (h₁.invariant.synced.tracks_queue hq) _)
  exact h₁.of_step hsync ⟨rfl, rfl, rfl⟩ ⟨rfl, rfl, rfl⟩
    ⟨r, _, _, recv, hr, rfl, rfl, hrecv, hw.release hu _⟩

/-- Keeping a payload in a free slot of the receive ring keeps the windows. -/
theorem hold (h : e.Established) {ring : SegmentBuffer} (hring : e.session.receiveRing = some ring)
    (seq : UInt16) (payload : Bytes) :
    Established { e with session := { e.session with receiveRing := some (ring.store seq payload).2 } } := by
  obtain ⟨r, send, queue, recv, hr, hs, hq, hrecv, hw⟩ := h.windows
  rw [hring] at hrecv
  cases hrecv
  refine h.of_step (h.invariant.synced.of_held rfl rfl) ⟨rfl, rfl, rfl⟩ ⟨rfl, rfl, rfl⟩
    ⟨r, send, queue, _, hr, hs, hq, rfl, ?_⟩
  exact hw.receive (hw.recv_wf.store seq payload) (SegmentBuffer.capacity_store _ _ _)
    e.session.info.receiveAcked (by rw [SegmentBuffer.base_store, hw.recv_base])

/-- The delivery loop, from an endpoint whose receive ring starts one past the last delivered
number and holds fewer segments than the fuel, ends with the windows aligned. -/
theorem drainHeld {fuel : Nat} (hsync : e.Synced) (hst : e.session.state = .connected)
    (hallowed : e.session.TimersAllowed) (hc : e.session.info.config.isValid = true)
    {r : Config} {send : SegmentBuffer} {queue : RetransmitQueue} {recv : SegmentBuffer}
    (hr : e.session.info.remote = some r) (hs : e.session.sendRing = some send)
    (hq : e.session.retransmit = some queue) (hrecv : e.session.receiveRing = some recv)
    (hw : Session.Windows { e.session.info with receiveAcked := e.session.info.receiveAcked - 1 }
      r send queue recv)
    (hfuel : recv.inUse < fuel) : ((drainHeld fuel).run e).2.Established := by
  induction fuel generalizing e recv with
  | zero => exact absurd hfuel (Nat.not_lt_zero _)
  | succ fuel ih =>
    -- the ring starts at the next expected number
    have hbase : recv.base = e.session.info.receiveAcked + 1 := by
      rw [hw.recv_base]
      grind
    have hbase' : (recv.advanceBase 1).base = e.session.info.receiveAcked + 2 := by
      rw [SegmentBuffer.base_advanceBase, hbase]
      grind
    cases hu : recv.isInUse (e.session.info.receiveAcked + 1) with
    | false =>
      -- a gap: the ring moves past it and the loop ends with `Windows` restored
      rw [run_drainHeld_of_not_inUse e hrecv hu]
      have hw' := hw.receive (hw.recv_wf.advanceBase 1) (SegmentBuffer.capacity_advanceBase _ _)
        e.session.info.receiveAcked hbase'
      exact ⟨Invariant.of_connected (hsync.of_held rfl rfl) hst (hallowed.of_frame rfl rfl rfl)
        ⟨r, send, queue, _, hr, hs, hq, rfl, hw'⟩ hc, hst⟩
    | true =>
      -- a held segment: it is delivered, the ring moves by one and frees its slot
      obtain ⟨payload, hp⟩ := SegmentBuffer.exists_slot_of_isInUse hu
      rw [run_drainHeld_of_inUse e hrecv hu hp]
      have hw' := hw.receive (hw.recv_wf.advanceBase 1) (SegmentBuffer.capacity_advanceBase _ _)
        e.session.info.receiveAcked hbase'
      have hless : (recv.advanceBase 1).inUse < recv.inUse :=
        hw.recv_wf.inUse_advanceBase_one_lt (by rw [hbase]; exact hu)
      refine ih (hsync.of_held rfl rfl) hst (hallowed.of_frame rfl rfl rfl) hc hr hs hq rfl ?_
        (by omega)
      have hi : ({ { e.session.info with receiveAcked := e.session.info.receiveAcked + 1 } with
          receiveAcked := e.session.info.receiveAcked + 1 - 1 } : Info) =
          { { e.session.info with receiveAcked := e.session.info.receiveAcked - 1 } with
            receiveAcked := e.session.info.receiveAcked } := by
        simp
      rw [hi]
      exact hw'

/-- Delivering the next expected payload, then the held run after it, keeps the windows
aligned. -/
theorem deliver (h : e.Established) {seq : UInt16} (hseq : seq = e.session.info.receiveAcked + 1)
    (payload : Bytes) : ((deliver seq payload).run e).2.Established := by
  obtain ⟨r, send, queue, recv, hr, hs, hq, hrecv, hw⟩ := h.windows
  rw [run_deliver]
  have hallowed := h.invariant.allowed
  refine drainHeld (h.invariant.synced.of_held rfl rfl) h.connected
    (hallowed.of_frame rfl rfl rfl) h.invariant.config hr hs hq hrecv ?_ ?_
  · have hi : ({ { e.session.info with receiveAcked := seq } with receiveAcked := seq - 1 } : Info) =
        e.session.info := by
      rw [hseq]
      simp
    rw [hi]
    exact hw
  · simp only [hrecv, Option.map_some, Option.getD_some]
    exact Nat.lt_succ_of_le (hw.recv_wf.inUse_le_capacity)

/-- A segment arriving while connected keeps the endpoint established. -/
theorem segmentArrives (h : e.Established) (c : Common) (acks : List UInt16) (payload : Bytes) :
    ((segmentArrives c acks payload).run e).2.Established := by
  rw [run_segmentArrives]
  split
  · dsimp only
    -- the acknowledgments first: each leaves the endpoint established
    have h₁ : (if c.flags.has .ack then ((Act.acknowledge c.ack).run e).2 else e).Established := by
      split
      · exact h.acknowledge c.ack
      · exact h
    generalize (if c.flags.has .ack then ((Act.acknowledge c.ack).run e).2 else e) = e₁ at h₁ ⊢
    have h₂ : (if acks.isEmpty then e₁ else ((Act.acknowledgeEach acks).run e₁).2).Established := by
      split
      · exact h₁
      · exact h₁.acknowledgeEach acks
    generalize (if acks.isEmpty then e₁ else ((Act.acknowledgeEach acks).run e₁).2) = e₂ at h₂ ⊢
    -- then the payload, delivered or held
    split
    · exact h₂
    · refine Established.spoken ?_ (spoken_sendAck _)
      split
      · rename_i hseq
        exact h₂.deliver hseq payload
      · split
        · rename_i ring hring
          split
          · exact h₂.hold hring c.seq payload
          · exact h₂
        · exact h₂
  · exact h.spoken (spoken_sendAck e)

/-- A NUL arriving while connected keeps the endpoint established. -/
theorem nulArrives (h : e.Established) (c : Common) : ((nulArrives c).run e).2.Established := by
  rw [run_nulArrives]
  refine Established.spoken ?_ (spoken_sendAck _)
  split
  · exact h.acknowledge c.ack
  · exact h

/-- An accepted payload fills the next slot of the send window. -/
theorem sendData (h : e.Established) (payload : Bytes) :
    ((sendData payload).run e).2.Established := by
  have hsync := h.invariant.synced.sendData payload
  rcases run_sendData e payload with ⟨err, hrun⟩ | ⟨r', ring, queue', hdr, bytes, -, hring, hq', -, -, hcan, -, hrun⟩
  · rw [hrun]
    exact h
  · rw [hrun] at hsync ⊢
    obtain ⟨r, send, queue, recv, hr, hs, hq, hrecv, hw⟩ := h.windows
    rw [hring] at hs
    cases hs
    rw [hq'] at hq
    cases hq
    have hslot : ring.hasSlot e.session.info.sendNext = true := by
      simp only [Session.canSend, hring, Bool.and_eq_true, beq_iff_eq, Option.map_some,
        Option.getD_some] at hcan
      exact hcan.2
    exact h.of_step hsync ⟨rfl, rfl, rfl⟩ ⟨rfl, rfl, rfl⟩
      ⟨r, _, _, recv, hr, rfl, rfl, hrecv, hw.sent hslot bytes _ _⟩

end Established

end Endpoint

end ReliableDatagram
