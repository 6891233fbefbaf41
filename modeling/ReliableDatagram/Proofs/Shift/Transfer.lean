import ReliableDatagram.Proofs.Shift.Actions
import ReliableDatagram.Proofs.Flow
/-!
# Moving the numbers of the data

While connected, a session compares numbers in four places: whether a segment lies in the
receive window, whether an acknowledgment lies between the send window's base and `sendNext`,
which slot a number has in a ring, and whether a payload is the next expected one. Each compares
two numbers of the same side, as a forward distance (`Seq.offset`) or as an equality, so moving
both by the same amount changes nothing (`Seq.offset_add_add`, `Seq.inWindow_add_add`). This
module carries `Endpoint.Shifted` through every action of the data path with that fact.

Two facts outside the numbers are needed. The send ring keeps each segment whole, because a
connected session's send ring has room for the peer's segment size (`Session.Shifted.room`); so
what it resends is the moved datagram itself. And a segment is resent only while its slot is in
use, so the two rings hold corresponding datagrams for it (`SegmentBuffer.Shifted.slot_of_isInUse`).

The actions of the data path keep the state and the peer (`keeps_acknowledge`, ...): the answers
that follow them read numbers that still correspond.
-/

namespace ReliableDatagram

/-- A ring present in one run is present in the other. -/
theorem SegmentBuffer.Shifted.cases_rel {k : UInt16} {R : Bytes → Bytes → Prop} {x y : Option SegmentBuffer}
    (h : Option.Rel (SegmentBuffer.Shifted k R) x y) :
    (x = none ∧ y = none) ∨ ∃ r r', x = some r ∧ y = some r' ∧ SegmentBuffer.Shifted k R r r' := by
  cases h with
  | none => exact .inl ⟨rfl, rfl⟩
  | some h => exact .inr ⟨_, _, rfl, rfl, h⟩

namespace RetransmitQueue

/-- A segment is resent only when its entry is due and `resend` allows it. -/
theorem fire_rescheduled {q : RetransmitQueue} {s : Schedule} {seq : UInt16} {h : Handle}
    {resend : Entry → Bool} (hf : (q.fire s seq h resend).1 = .rescheduled) :
    ∃ x, q.due? seq h = some x ∧ resend x = true := by
  unfold fire at hf
  split at hf
  · rename_i x _ hd
    split at hf
    · exact ⟨x, hd, ‹_›⟩
    · cases hf
  · cases hf

end RetransmitQueue

/-! ### The data path keeps the state and the peer -/

namespace Act

variable (e : Endpoint)

theorem keeps_acknowledge (ack : UInt16) :
    ((acknowledge ack).run e).2.session.state = e.session.state ∧
      ((acknowledge ack).run e).2.session.info.remote = e.session.info.remote :=
  acknowledge_cases (motive := fun x ↦ x.session.state = e.session.state ∧
    x.session.info.remote = e.session.info.remote) e ack ⟨rfl, rfl⟩ fun _ _ _ _ _ ↦ ⟨rfl, rfl⟩

theorem keeps_acknowledgeEach (acks : List UInt16) :
    ((acknowledgeEach acks).run e).2.session.state = e.session.state ∧
      ((acknowledgeEach acks).run e).2.session.info.remote = e.session.info.remote :=
  acknowledgeEach_induction (motive := fun x ↦ x.session.state = e.session.state ∧
    x.session.info.remote = e.session.info.remote) e acks ⟨rfl, rfl⟩ fun _ _ _ _ _ _ _ h ↦ h

theorem keeps_drainHeld (fuel : Nat) :
    ((drainHeld fuel).run e).2.session.state = e.session.state ∧
      ((drainHeld fuel).run e).2.session.info.remote = e.session.info.remote :=
  drainHeld_induction (motive := fun x ↦ x.session.state = e.session.state ∧
    x.session.info.remote = e.session.info.remote) e fuel ⟨rfl, rfl⟩ (fun _ _ _ _ _ _ h ↦ h)
    fun _ _ _ _ h ↦ h

theorem keeps_deliver (seq : UInt16) (payload : Bytes) :
    ((deliver seq payload).run e).2.session.state = e.session.state ∧
      ((deliver seq payload).run e).2.session.info.remote = e.session.info.remote := by
  rw [run_deliver]
  exact keeps_drainHeld _ _

theorem keeps_retransmitFired (seq : UInt16) (h : Handle) :
    ((retransmitFired seq h).run e).2.session.state = e.session.state ∧
      ((retransmitFired seq h).run e).2.session.info.remote = e.session.info.remote :=
  retransmitFired_cases (motive := fun x ↦ x.session.state = e.session.state ∧
    x.session.info.remote = e.session.info.remote) e seq h ⟨rfl, rfl⟩ fun _ _ _ _ ↦
      ⟨⟨rfl, rfl⟩, fun _ h ↦ h⟩

end Act

namespace Endpoint.Shifted

variable {a b : UInt16} {rcv : Option Common} {e e' : Endpoint}

/-! ### Sending -/

/-- A connected session has this side's and the peer's numbers in step. -/
theorem numbers_of_connected (E : Shifted a b rcv e e') (hst : e.session.state = .connected) :
    Info.SendShifted a e.session.info e'.session.info ∧
      Info.ReceiveShifted b e.session.info e'.session.info :=
  ⟨E.sendShifted (by rw [hst]; decide), E.receiveShifted (.inr hst)⟩

theorem canSend_eq (E : Shifted a b rcv e e') (hst : e.session.state = .connected) :
    e'.session.canSend = e.session.canSend := by
  unfold Session.canSend
  rw [E.session.state, (E.numbers_of_connected hst).1.sendNext]
  rcases SegmentBuffer.Shifted.cases_rel E.session.sendRing with ⟨hx, hy⟩ | ⟨r, r', hx, hy, hR⟩
  · rw [hx, hy, Option.map_none, Option.map_none]
  · rw [hx, hy, Option.map_some, Option.map_some, hR.hasSlot]

/-- A payload is accepted or refused alike, and when accepted it is stored, queued and sent
under numbers `a` apart. -/
theorem sendData (E : Shifted a b rcv e e') (hst : e.session.state = .connected) (p : Bytes) :
    ((Act.sendData p).run e').1 = ((Act.sendData p).run e).1 ∧
      Shifted a b rcv ((Act.sendData p).run e).2 ((Act.sendData p).run e').2 := by
  obtain ⟨hsend, hrecv⟩ := E.numbers_of_connected hst
  rw [Act.sendData, Act.run_bind e, Act.run_bind e', Act.run_session, Act.run_session]
  simp only [E.session.remote, E.canSend_eq hst, hsend.sendNext,
    hrecv.receiveAcked, E.session.config]
  cases hr : e.session.info.remote with
  | none => exact ⟨rfl, E⟩
  | some r =>
  dsimp only
  by_cases hp : p.isEmpty = true
  · simp only [hp, ↓reduceIte]
    exact ⟨rfl, E⟩
  by_cases hlen : p.length > r.maxSegmentSize.toNat - ackHeaderLength
  · simp only [hp, hlen, ↓reduceIte, Bool.false_eq_true]
    exact ⟨rfl, E⟩
  by_cases hc : e.session.canSend = true
  swap
  · rw [Bool.not_eq_true] at hc
    simp only [hp, hlen, hc, ↓reduceIte, Bool.false_eq_true, Bool.not_false]
    exact ⟨rfl, E⟩
  simp only [hp, hlen, hc, ↓reduceIte, Bool.false_eq_true, Bool.not_true]
  rcases SegmentBuffer.Shifted.cases_rel E.session.sendRing with ⟨hx, hy⟩ | ⟨ring, ring', hx, hy, hR⟩
  · rw [hx, hy]
    exact ⟨rfl, E⟩
  rw [hx, hy, E.session.retransmit]
  cases hq : e.session.retransmit with
  | none => exact ⟨rfl, E⟩
  | some queue =>
  dsimp only [Option.map_some]
  rw [← Header.buildData_shiftOut]
  cases henc : (Header.buildData e.session.info.sendNext e.session.info.receiveAcked
      p.length.toUInt16).encode p with
  | error err =>
    cases henc' : ((Header.buildData e.session.info.sendNext e.session.info.receiveAcked
        p.length.toUInt16).shiftOut a b).encode p with
    | ok res =>
      obtain ⟨res', h'⟩ := (Header.encode_shift_ok_iff _ _ _ _ _).1 ⟨res, henc'⟩
      rw [henc] at h'
      cases h'
    | error err' => exact ⟨rfl, E⟩
  | ok res =>
  obtain ⟨sealed, bytes⟩ := res
  obtain ⟨sealed', bytes', henc'⟩ := Header.encode_shift_ok henc a
    (if (Header.buildData e.session.info.sendNext e.session.info.receiveAcked
      p.length.toUInt16).common.flags.has .ack then b else 0) b
  have hd : Datagram.Shifted a b bytes bytes' := ⟨_, p, sealed, sealed', henc, henc'⟩
  rw [← Header.shiftOut] at henc'
  simp only [henc', Act.run_withSchedule, Act.run_modifySession, Act.run_emit, Act.run_modifyTimers,
    Act.run_modifyInfo, Act.run_pure, Act.run_bind]
  refine ⟨trivial, ?_⟩
  -- the segment fits the peer's segment size, so the send ring keeps it whole
  have hfit : bytes.length ≤ ring.slotSize := by
    have hroom := E.session.room hst ring r hx hr
    have hpos : 0 < p.length := List.length_pos_iff.2 (by simpa using hp)
    rw [Header.length_encode_data henc]
    unfold ackHeaderLength at hlen ⊢
    omega
  have htake : bytes'.take ring'.slotSize = bytes' := by
    rw [hR.slotSize, List.take_of_length_le (hd.length_eq ▸ hfit)]
  rw [E.schedule, RetransmitQueue.add_shift]
  refine ⟨{ E.session with
      send := fun _ ↦ ⟨hsend.1, Seq.add_right_comm _ _ _, hsend.3⟩
      receive := fun _ ↦ ⟨hrecv.1, hrecv.2⟩
      timers := by rw [E.session.timers]
      retransmit := rfl
      sendRing := .some (hR.store _ (by rw [List.take_of_length_le hfit, htake]; exact hd))
      room := fun _ ring₁ r₁ h₁ hr₁ ↦ by
        cases h₁
        rw [SegmentBuffer.slotSize_store]
        exact E.session.room hst ring r₁ hx hr₁ }, rfl, ?_⟩
  exact List.rel_append (List.rel_append E.effects (.cons (.transmit hd) .nil))
    (.cons (.accepted _) .nil)

/-! ### Acknowledgments -/

/-- An acknowledgment `a` further on moves the send window alike: whether it counts is a
comparison of forward distances from the window's base. -/
theorem acknowledge (E : Shifted a b rcv e e') (hsend : Info.SendShifted a e.session.info e'.session.info)
    (ack : UInt16) :
    Shifted a b rcv ((Act.acknowledge ack).run e).2 ((Act.acknowledge (ack + a)).run e').2 := by
  rcases SegmentBuffer.Shifted.cases_rel E.session.sendRing with ⟨hx, hy⟩ | ⟨ring, ring', hx, hy, hR⟩
  · rw [Act.run_acknowledge_of_none e (.inl hx), Act.run_acknowledge_of_none e' (.inl hy)]
    exact E
  cases hq : e.session.retransmit with
  | none =>
    have hq' : e'.session.retransmit = none := by rw [E.session.retransmit, hq]; rfl
    rw [Act.run_acknowledge_of_none e (.inr hq), Act.run_acknowledge_of_none e' (.inr hq')]
    exact E
  | some queue =>
    have hq' : e'.session.retransmit = some (queue.shift a) := by rw [E.session.retransmit, hq]; rfl
    rw [Act.run_acknowledge e hx hq, Act.run_acknowledge e' hy hq', hR.base, hsend.sendNext,
      E.schedule, Seq.add_right_comm ack a 1, Seq.offset_add_add, Seq.offset_add_add]
    split_ifs
    · exact E
    rw [RetransmitQueue.advance_shift]
    exact ⟨{ E.session with
        send := fun _ ↦ ⟨hsend.1, hsend.2, rfl⟩
        receive := fun h ↦ have hr := E.session.receive h; ⟨hr.1, hr.2⟩
        retransmit := rfl
        sendRing := .some (hR.advanceBase _)
        room := fun hc ring₁ r₁ h₁ hr₁ ↦ by
          cases h₁
          rw [SegmentBuffer.slotSize_advanceBase]
          exact E.session.room hc ring r₁ hx hr₁ }, rfl, E.effects⟩

/-- An extended acknowledgment whose numbers are `a` further on releases the same slots. -/
theorem acknowledgeEach (E : Shifted a b rcv e e') (acks : List UInt16) :
    Shifted a b rcv ((Act.acknowledgeEach acks).run e).2
      ((Act.acknowledgeEach (acks.map (· + a))).run e').2 := by
  induction acks generalizing e e' with
  | nil => exact E
  | cons seq rest ih =>
    rcases SegmentBuffer.Shifted.cases_rel E.session.sendRing with ⟨hx, hy⟩ | ⟨ring, ring', hx, hy, hR⟩
    · rw [Act.run_acknowledgeEach_of_none e (.inl hx), List.map_cons,
        Act.run_acknowledgeEach_of_none e' (.inl hy)]
      exact E
    cases hq : e.session.retransmit with
    | none =>
      have hq' : e'.session.retransmit = none := by rw [E.session.retransmit, hq]; rfl
      rw [Act.run_acknowledgeEach_of_none e (.inr hq), List.map_cons,
        Act.run_acknowledgeEach_of_none e' (.inr hq')]
      exact E
    | some queue =>
      have hq' : e'.session.retransmit = some (queue.shift a) := by
        rw [E.session.retransmit, hq]; rfl
      rw [Act.run_acknowledgeEach_cons e hx hq, List.map_cons, Act.run_acknowledgeEach_cons e' hy hq',
        hR.isInUse, E.schedule, RetransmitQueue.remove_shift]
      split_ifs
      · refine ih ⟨{ E.session with
            retransmit := rfl
            sendRing := .some (hR.unmark seq)
            room := fun hc ring₁ r₁ h₁ hr₁ ↦ by
              cases h₁
              rw [SegmentBuffer.slotSize_unmark]
              exact E.session.room hc ring r₁ hx hr₁ }, rfl, E.effects⟩
      · exact ih E

/-! ### Delivering -/

/-- The delivery loop delivers the same payloads: the slot after the last delivered number is the
same slot in both receive rings. -/
theorem drainHeld (E : Shifted a b rcv e e') (hlive : e.session.info.remote.isSome) (fuel : Nat) :
    Shifted a b rcv ((Act.drainHeld fuel).run e).2 ((Act.drainHeld fuel).run e').2 := by
  induction fuel generalizing e e' with
  | zero => exact E
  | succ fuel ih =>
    have hrecv := E.session.receive hlive
    rcases SegmentBuffer.Shifted.cases_rel E.session.receiveRing with ⟨hx, hy⟩ | ⟨ring, ring', hx, hy, hR⟩
    · rw [Act.run_drainHeld_of_none e hx, Act.run_drainHeld_of_none e' hy]
      exact E
    have hnext : e'.session.info.receiveAcked + 1 = e.session.info.receiveAcked + 1 + b := by
      rw [hrecv.receiveAcked, Seq.add_right_comm]
    cases hu : ring.isInUse (e.session.info.receiveAcked + 1) with
    | false =>
      have hu' : ring'.isInUse (e'.session.info.receiveAcked + 1) = false := by rw [hnext, hR.isInUse, hu]
      rw [Act.run_drainHeld_of_not_inUse e hx hu, Act.run_drainHeld_of_not_inUse e' hy hu']
      exact ⟨{ E.session with receiveRing := .some (hR.advanceBase 1) }, E.schedule, E.effects⟩
    | true =>
      obtain ⟨p, hp⟩ := SegmentBuffer.exists_slot_of_isInUse hu
      have hu' : ring'.isInUse (e'.session.info.receiveAcked + 1) = true := by rw [hnext, hR.isInUse, hu]
      have hp' : ring'.slot (e'.session.info.receiveAcked + 1) = some p := by
        rw [hnext, hR.slot_eq, hp]
      rw [Act.run_drainHeld_of_inUse e hx hu hp, Act.run_drainHeld_of_inUse e' hy hu' hp']
      exact ih ⟨{ E.session with
          send := fun h ↦ have hs := E.session.send h; ⟨hs.1, hs.2, hs.3⟩
          receive := fun _ ↦ ⟨hrecv.1, hnext⟩
          receiveRing := .some (hR.advanceBase 1) }, E.schedule,
        List.rel_append E.effects (.cons (.deliver p) .nil)⟩ hlive

/-- The payload with the next expected number `b` further on is delivered alike, and so is the
run after it. -/
theorem deliver (E : Shifted a b rcv e e') (hlive : e.session.info.remote.isSome) (seq : UInt16)
    (payload : Bytes) :
    Shifted a b rcv ((Act.deliver seq payload).run e).2 ((Act.deliver (seq + b) payload).run e').2 := by
  have hfuel : (e'.session.receiveRing.map (·.capacity)).getD 0 =
      (e.session.receiveRing.map (·.capacity)).getD 0 := by
    rcases SegmentBuffer.Shifted.cases_rel E.session.receiveRing with ⟨hx, hy⟩ | ⟨r, r', hx, hy, hR⟩
    · rw [hx, hy]
    · rw [hx, hy, Option.map_some, Option.map_some, hR.capacity]
  rw [Act.run_deliver, Act.run_deliver, hfuel]
  refine drainHeld ?_ ?_ _
  · exact ⟨{ E.session with
        send := fun h ↦ have hs := E.session.send h; ⟨hs.1, hs.2, hs.3⟩
        receive := fun h ↦ ⟨(E.session.receive h).1, rfl⟩ }, E.schedule,
      List.rel_append E.effects (.cons (.deliver payload) .nil)⟩
  · exact hlive

/-! ### Arrivals -/

/-- A connected session is answered alike. -/
theorem sendAck_of_connected (E : Shifted a b rcv e e') (hst : e.session.state = .connected) :
    Shifted a b rcv (Act.sendAck.run e).2 (Act.sendAck.run e').2 :=
  E.sendAck (E.numbers_of_connected hst).1 (E.numbers_of_connected hst).2

/-- Whether a segment `b` further on lies in a receive window `b` further on. -/
theorem inWindow_eq (E : Shifted a b rcv e e') (hrecv : Info.ReceiveShifted b e.session.info e'.session.info)
    {c c' : Common} (hc : Common.Moved b a c c') :
    Seq.inWindow c'.seq (e'.session.info.receiveAcked + 1)
        e'.session.info.config.maxOutstanding.toUInt16 =
      Seq.inWindow c.seq (e.session.info.receiveAcked + 1)
        e.session.info.config.maxOutstanding.toUInt16 := by
  rw [hc.seq, hrecv.receiveAcked, E.session.config, Seq.add_right_comm _ b 1,
    Seq.inWindow_add_add]

/-- A cumulative acknowledgment taken when flagged. -/
theorem acknowledgeIf (E : Shifted a b rcv e e')
    (hsend : Info.SendShifted a e.session.info e'.session.info) (c : Common) (take : Bool) :
    Shifted a b rcv (if take then ((Act.acknowledge c.ack).run e).2 else e)
      (if take then ((Act.acknowledge (c.ack + a)).run e').2 else e') := by
  split
  · exact E.acknowledge hsend c.ack
  · exact E

/-- A payload out of order is held alike: its slot is the same slot in both receive rings. -/
theorem hold (E : Shifted a b rcv e e') (seq : UInt16) (payload : Bytes) :
    Shifted a b rcv
      (match e.session.receiveRing with
        | some ring =>
          if ring.hasSlot seq && !ring.isInUse seq then
            { e with session := { e.session with receiveRing := some (ring.store seq payload).2 } }
          else e
        | none => e)
      (match e'.session.receiveRing with
        | some ring =>
          if ring.hasSlot (seq + b) && !ring.isInUse (seq + b) then
            { e' with session := { e'.session with receiveRing := some (ring.store (seq + b) payload).2 } }
          else e'
        | none => e') := by
  rcases SegmentBuffer.Shifted.cases_rel E.session.receiveRing with ⟨hx, hy⟩ | ⟨ring, ring', hx, hy, hR⟩
  · rw [hx, hy]
    exact E
  rw [hx, hy]
  dsimp only
  rw [hR.hasSlot, hR.isInUse]
  split_ifs
  · exact ⟨{ E.session with receiveRing := .some (hR.store seq (by rw [hR.slotSize])) },
      E.schedule, E.effects⟩
  · exact E

/-- A payload arriving while connected is delivered when it is the next expected one, held
otherwise, and answered; a payload `b` further on meets a receive window `b` further on. -/
theorem takePayload (E : Shifted a b rcv e e') (hst : e.session.state = .connected) (seq : UInt16)
    (payload : Bytes) :
    Shifted a b rcv
      (Act.sendAck.run (if seq = e.session.info.receiveAcked + 1 then ((Act.deliver seq payload).run e).2
        else match e.session.receiveRing with
          | some ring =>
            if ring.hasSlot seq && !ring.isInUse seq then
              { e with session := { e.session with receiveRing := some (ring.store seq payload).2 } }
            else e
          | none => e)).2
      (Act.sendAck.run (if seq + b = e'.session.info.receiveAcked + 1 then
          ((Act.deliver (seq + b) payload).run e').2
        else match e'.session.receiveRing with
          | some ring =>
            if ring.hasSlot (seq + b) && !ring.isInUse (seq + b) then
              { e' with session := { e'.session with receiveRing := some (ring.store (seq + b) payload).2 } }
            else e'
          | none => e')).2 := by
  have hrecv := (E.numbers_of_connected hst).2
  have hlive := E.session.accepted (.inr hst)
  have hnext : seq + b = e'.session.info.receiveAcked + 1 ↔ seq = e.session.info.receiveAcked + 1 := by
    rw [hrecv.receiveAcked, Seq.add_right_comm _ b 1, UInt16.add_left_inj]
  by_cases hseq : seq = e.session.info.receiveAcked + 1
  · rw [if_pos hseq, if_pos (hnext.2 hseq)]
    refine (E.deliver hlive seq payload).sendAck_of_connected ?_
    rw [(Act.keeps_deliver e seq payload).1, hst]
  · rw [if_neg hseq, if_neg (mt hnext.1 hseq)]
    refine (E.hold seq payload).sendAck_of_connected ?_
    -- holding changes the receive ring alone
    split
    · split <;> exact hst
    · exact hst

/-- A segment arriving while connected, with its numbers moved as the other side sends them, is
taken alike: its acknowledgments, its payload, and the answer. -/
theorem segmentArrives (E : Shifted a b rcv e e') (hst : e.session.state = .connected)
    {c c' : Common} (hc : Common.Moved b a c c') (acks : List UInt16) (payload : Bytes) :
    Shifted a b rcv ((Act.segmentArrives c acks payload).run e).2
      ((Act.segmentArrives c' (acks.map (· + a)) payload).run e').2 := by
  obtain ⟨hsend, hrecv⟩ := E.numbers_of_connected hst
  rw [Act.run_segmentArrives, Act.run_segmentArrives, E.inWindow_eq hrecv hc]
  split
  swap
  · exact E.sendAck hsend hrecv
  dsimp only
  -- the cumulative acknowledgment first; it keeps the state
  have E₁ := E.acknowledgeIf hsend c (c.flags.has .ack)
  have hk₁ : (if c.flags.has .ack then ((Act.acknowledge c.ack).run e).2 else e).session.state =
      .connected := by
    split
    · rw [(Act.keeps_acknowledge e c.ack).1, hst]
    · exact hst
  rw [hc.flags, hc.ack, hc.seq]
  generalize (if c.flags.has .ack then ((Act.acknowledge c.ack).run e).2 else e) = e₁ at E₁ hk₁ ⊢
  generalize (if c.flags.has .ack then ((Act.acknowledge (c.ack + a)).run e').2 else e') = e₁' at E₁ ⊢
  -- then the extended acknowledgments
  have E₂ : Shifted a b rcv (if acks.isEmpty then e₁ else ((Act.acknowledgeEach acks).run e₁).2)
      (if acks.isEmpty then e₁' else ((Act.acknowledgeEach (acks.map (· + a))).run e₁').2) := by
    split
    · exact E₁
    · exact E₁.acknowledgeEach acks
  have hk₂ : (if acks.isEmpty then e₁ else ((Act.acknowledgeEach acks).run e₁).2).session.state =
      .connected := by
    split
    · exact hk₁
    · rw [(Act.keeps_acknowledgeEach e₁ acks).1, hk₁]
  rw [List.isEmpty_map]
  generalize (if acks.isEmpty then e₁ else ((Act.acknowledgeEach acks).run e₁).2) = e₂ at E₂ hk₂ ⊢
  generalize (if acks.isEmpty then e₁' else ((Act.acknowledgeEach (acks.map (· + a))).run e₁').2) =
    e₂' at E₂ ⊢
  -- then the payload, with the answer
  split
  · exact E₂
  · exact E₂.takePayload hk₂ c.seq payload

/-- A NUL arriving while connected: its acknowledgment counts alike, and it is answered alike. -/
theorem nulArrives (E : Shifted a b rcv e e') (hst : e.session.state = .connected)
    {c c' : Common} (hc : Common.Moved b a c c') :
    Shifted a b rcv ((Act.nulArrives c).run e).2 ((Act.nulArrives c').run e').2 := by
  obtain ⟨hsend, hrecv⟩ := E.numbers_of_connected hst
  rw [Act.run_nulArrives, Act.run_nulArrives, E.inWindow_eq hrecv hc, hc.flags, hc.ack]
  have hk : (if Seq.inWindow c.seq (e.session.info.receiveAcked + 1)
        e.session.info.config.maxOutstanding.toUInt16 && c.flags.has .ack
      then ((Act.acknowledge c.ack).run e).2 else e).session.state = .connected := by
    split
    · rw [(Act.keeps_acknowledge e c.ack).1, hst]
    · exact hst
  exact (E.acknowledgeIf hsend c _).sendAck_of_connected hk

/-! ### Retransmitting -/

/-- A retransmission wake-up for a number `a` further on is honoured alike: the same answer, and
a resent segment is the moved datagram the ring holds for it. -/
theorem retransmitFired (E : Shifted a b rcv e e') (seq : UInt16) (h : Handle) :
    ((Act.retransmitFired (seq + a) h).run e').1 = ((Act.retransmitFired seq h).run e).1 ∧
      Shifted a b rcv ((Act.retransmitFired seq h).run e).2
        ((Act.retransmitFired (seq + a) h).run e').2 := by
  rcases SegmentBuffer.Shifted.cases_rel E.session.sendRing with ⟨hx, hy⟩ | ⟨ring, ring', hx, hy, hR⟩
  · simp only [Act.retransmitFired, Act.run_bind, Act.run_session, hx, hy]
    exact ⟨rfl, E⟩
  cases hq : e.session.retransmit with
  | none =>
    have hq' : e'.session.retransmit = none := by rw [E.session.retransmit, hq]; rfl
    simp only [Act.retransmitFired, Act.run_bind, Act.run_session, hx, hy, hq, hq']
    exact ⟨rfl, E⟩
  | some queue =>
    have hq' : e'.session.retransmit = some (queue.shift a) := by rw [E.session.retransmit, hq]; rfl
    rw [Act.run_retransmitFired e hx hq, Act.run_retransmitFired e' hy hq']
    dsimp only
    rw [hR.isInUse, E.session.config, E.schedule, RetransmitQueue.fire_shift]
    dsimp only
    cases hf : (queue.fire e.schedule seq h fun x ↦
        decide (x.transmissions < e.session.info.config.maxRetransmissions) && ring.isInUse seq).1 with
    | rescheduled =>
      -- a segment is resent only while its slot is in use, where both rings hold it
      obtain ⟨x, -, hres⟩ := RetransmitQueue.fire_rescheduled hf
      have hu : ring.isInUse seq = true := (Bool.and_eq_true_iff.1 hres).2
      obtain ⟨v, v', hv, hv', hd⟩ := hR.slot_of_isInUse hu
      rw [hv, hv', Option.getD_some, Option.getD_some]
      exact ⟨rfl, (E.withQueue _ _).sent (.transmit hd)⟩
    | stale => exact ⟨rfl, E.withQueue _ _⟩
    | exhausted => exact ⟨rfl, E.withQueue _ _⟩

end Endpoint.Shifted

end ReliableDatagram
