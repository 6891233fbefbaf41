import ReliableDatagram.Proofs.Receiver
import ReliableDatagram.Proofs.WindowsSound
/-!
# The receiving half of a session

A session's receiving half is a `Receiver`: while connected, its receive ring's window, read
number by number from two past the last delivered one (`Session.receiver`); otherwise an empty
window of the configured size. What an event hands to it is at most one payload
(`Session.arrival`): that of a datagram within the size limit decoding to an acknowledgment,
plain or extended, with a payload numbered within the receive window, given by its offset past
the next expected number.

Most actions leave the receiving half alone (`Endpoint.ReceivesAs`). A segment arriving at a
connected session moves it by one step of the receiver (`Act.segmentArrives_receives`, in the
terms of `Endpoint.Received`): the expected payload is delivered with the held run behind it, a
payload further on is held when its slot is free. The one argument of its own is the delivery
loop, which delivers the held run one slot at a time, the ring starting one past the last
delivered number at each turn (`Act.drainHeld_receives`).
-/

namespace ReliableDatagram

/-! ### A window, number by number -/

namespace WindowMap

/-- What a window holds, offset by offset. -/
def heldList (w : WindowMap) : List (Option Bytes) :=
  (List.range w.capacity).map w.held

variable (w : WindowMap)

@[simp] theorem length_heldList : w.heldList.length = w.capacity := by
  simp [heldList]

theorem getElem?_heldList (o : Nat) :
    w.heldList[o]? = if o < w.capacity then some (w.held o) else none := by
  unfold heldList
  by_cases ho : o < w.capacity <;> simp [ho]

/-- Nothing is held past the window. -/
theorem held_eq_none {o : Nat} (ho : w.capacity ≤ o) : w.held o = none := by
  cases hw : w.held o with
  | none => rfl
  | some b => exact absurd (w.held_lt o b hw) (Nat.not_lt.2 ho)

theorem heldList_shift (k : UInt16) : (w.shift k).heldList = Receiver.slide w.heldList k.toNat := by
  refine List.ext_getElem? fun o ↦ ?_
  rw [getElem?_heldList, Receiver.getElem?_slide, length_heldList, getElem?_heldList]
  show (if o < w.capacity then some (w.held (o + k.toNat)) else none) = _
  by_cases ho : o < w.capacity
  · rw [if_pos ho, if_pos ho]
    by_cases hk : o + k.toNat < w.capacity
    · rw [if_pos hk, Option.getD_some]
    · rw [if_neg hk, Option.getD_none]
      exact congrArg some (w.held_eq_none (Nat.le_of_not_lt hk))
  · rw [if_neg ho, if_neg ho]

theorem heldList_put {q : UInt16} {bytes : Bytes} (hb : bytes.length ≤ w.slotSize)
    (hq : w.off q < w.capacity) :
    (w.put q bytes hb).heldList = w.heldList.set (w.off q) (some bytes) := by
  refine List.ext_getElem? fun o ↦ ?_
  rw [getElem?_heldList, List.getElem?_set, length_heldList, getElem?_heldList]
  show (if o < w.capacity then some (if w.off q < w.capacity ∧ o = w.off q then some bytes
    else w.held o) else none) = _
  by_cases ho : w.off q = o
  · subst ho
    rw [if_pos hq, if_pos ⟨hq, rfl⟩, if_pos rfl, if_pos hq]
  · rw [if_neg ho, if_neg (show ¬ (w.off q < w.capacity ∧ o = w.off q) from fun h ↦ ho h.2.symm)]

theorem heldList_reset (b : UInt16) : (w.reset b).heldList = List.replicate w.capacity none := by
  refine List.ext_getElem? fun o ↦ ?_
  rw [getElem?_heldList, List.getElem?_replicate]
  rfl

end WindowMap

/-! ### The receiving half of a session -/

namespace Segment

/-- The number and payload of an acknowledgment, plain or extended. -/
def data? (seg : Segment) : Option (UInt16 × Bytes) :=
  match seg.header with
  | .ack c _ | .eack c _ _ => some (c.seq, seg.payload)
  | _ => none

end Segment

namespace Info

/-- A payload numbered `n`, as the receiving half takes it: given by its offset past the next
expected number when it is not empty and `n` lies in the receive window. -/
def arrivalOf (i : Info) (n : UInt16) (p : Bytes) : Option (Nat × Bytes) :=
  if Seq.inWindow n (i.receiveAcked + 1) i.config.maxOutstanding.toUInt16 && !p.isEmpty then
    some ((Seq.offset n (i.receiveAcked + 1)).toNat, p)
  else none

end Info

namespace Session

/-- What the receiving half of a session holds: its receive ring's window while connected, an
empty window of the configured size otherwise. -/
def receiver (s : Session) : Receiver :=
  match s.state, s.receiveRing with
  | .connected, some ring => ⟨ring.view.heldList⟩
  | _, _ => .empty s.info.config.maxOutstanding.toNat

/-- The payload an event hands to the receiving half of `s`, with its offset past the next
expected number: that of a datagram within the size limit decoding to an acknowledgment, plain or
extended, with a payload numbered within the receive window. -/
def arrival (s : Session) : Event → Option (Nat × Bytes)
  | .receive d =>
    if d.length > s.info.config.maxSegmentSize.toNat then none
    else match Segment.parse d with
      | .ok seg => seg.data?.bind fun x ↦ s.info.arrivalOf x.1 x.2
      | .error _ => none
  | _ => none

/-- A connected session's receive ring as its receiving half needs it: it starts two past the
last delivered number, has a slot for each number of the window, each large enough for a
segment, and is well formed. -/
structure Receiving (s : Session) (ring : SegmentBuffer) : Prop where
  base : ring.base = s.info.receiveAcked + 2
  capacity : ring.capacity = s.info.config.maxOutstanding.toNat
  room : s.info.config.maxSegmentSize.toNat ≤ ring.slotSize
  wf : ring.WellFormed

/-- Every receive ring a connected session holds has room for a segment. -/
def Roomy (s : Session) : Prop :=
  s.state = .connected → ∀ ring, s.receiveRing = some ring →
    s.info.config.maxSegmentSize.toNat ≤ ring.slotSize

theorem receiver_of_connected {s : Session} {ring : SegmentBuffer} (hst : s.state = .connected)
    (hr : s.receiveRing = some ring) : s.receiver = ⟨ring.view.heldList⟩ := by
  unfold receiver
  rw [hst, hr]

theorem receiver_of_not_connected {s : Session} (hst : s.state ≠ .connected) :
    s.receiver = .empty s.info.config.maxOutstanding.toNat := by
  unfold receiver
  split
  · rename_i h _
    exact absurd h hst
  · rfl

end Session

/-! ### Actions that leave the receiving half alone -/

namespace Endpoint

open Side

/-- `e'` receives as `e` does: the same state, configuration, last delivered number and receive
ring, and nothing more delivered. -/
structure ReceivesAs (e e' : Endpoint) : Prop where
  state : e'.session.state = e.session.state
  config : e'.session.info.config = e.session.info.config
  receiveAcked : e'.session.info.receiveAcked = e.session.info.receiveAcked
  receiveRing : e'.session.receiveRing = e.session.receiveRing
  deliveries : deliveries e'.effects = deliveries e.effects

namespace ReceivesAs

variable {e₁ e₂ e₃ : Endpoint}

theorem refl (e : Endpoint) : ReceivesAs e e := ⟨rfl, rfl, rfl, rfl, rfl⟩

theorem trans (h₁ : ReceivesAs e₁ e₂) (h₂ : ReceivesAs e₂ e₃) : ReceivesAs e₁ e₃ :=
  ⟨h₂.state.trans h₁.state, h₂.config.trans h₁.config, h₂.receiveAcked.trans h₁.receiveAcked,
    h₂.receiveRing.trans h₁.receiveRing, h₂.deliveries.trans h₁.deliveries⟩

theorem of_sameTalk (h : SameTalk e₁ e₂) : ReceivesAs e₁ e₂ :=
  ⟨h.1, by rw [h.2.1], by rw [h.2.1], h.2.2.2.1, by rw [h.2.2.2.2]⟩

theorem receiver_eq (h : ReceivesAs e₁ e₂) : e₂.session.receiver = e₁.session.receiver := by
  unfold Session.receiver
  rw [h.state, h.receiveRing, h.config]

theorem roomy (h : ReceivesAs e₁ e₂) (hr : e₁.session.Roomy) : e₂.session.Roomy := by
  intro hst ring hring
  rw [h.config]
  exact hr (h.state ▸ hst) ring (h.receiveRing ▸ hring)

end ReceivesAs

end Endpoint

namespace Act

open Endpoint Side

variable (e : Endpoint)

theorem receivesAs_transmit (h : Header) : ReceivesAs e ((transmit h).run e).2 := by
  rw [run_transmit]
  split
  · exact ⟨rfl, rfl, rfl, rfl, by simp⟩
  · exact ReceivesAs.refl e

theorem receivesAs_sendSyn (ack : Option UInt16) : ReceivesAs e ((sendSyn ack).run e).2 := by
  rw [run_sendSyn]
  exact receivesAs_transmit e _

theorem receivesAs_sendRst : ReceivesAs e (sendRst.run e).2 := by
  rw [run_sendRst]
  exact receivesAs_transmit e _

theorem receivesAs_sendAck : ReceivesAs e (sendAck.run e).2 := by
  rw [run_sendAck]
  exact receivesAs_transmit e _

theorem receivesAs_replyRst (c : Common) : ReceivesAs e ((replyRst c).run e).2 := by
  rw [run_replyRst]
  split
  · exact receivesAs_transmit e _
  · exact ReceivesAs.refl e

theorem receivesAs_acknowledge (ack : UInt16) : ReceivesAs e ((acknowledge ack).run e).2 :=
  acknowledge_cases e ack (ReceivesAs.refl e) fun _ _ _ _ _ ↦ ⟨rfl, rfl, rfl, rfl, rfl⟩

/-- Releasing sent segments leaves the receiving half alone. -/
theorem receivesAs_acknowledgeEach (acks : List UInt16) :
    ReceivesAs e ((acknowledgeEach acks).run e).2 :=
  acknowledgeEach_induction e acks (ReceivesAs.refl e) fun _ _ _ _ _ _ _ h ↦
    h.trans ⟨rfl, rfl, rfl, rfl, rfl⟩

theorem receivesAs_nulArrives (c : Common) : ReceivesAs e ((nulArrives c).run e).2 := by
  rw [run_nulArrives]
  refine ReceivesAs.trans ?_ (receivesAs_sendAck _)
  split
  · exact receivesAs_acknowledge e c.ack
  · exact ReceivesAs.refl e

theorem receivesAs_sendData (payload : Bytes) : ReceivesAs e ((sendData payload).run e).2 := by
  rcases run_sendData e payload with ⟨err, hr⟩ | ⟨r, ring, queue, hdr, bytes, -, -, -, -, -, -, -, hr⟩
  · rw [hr]
    exact ReceivesAs.refl e
  · rw [hr]
    exact ⟨rfl, rfl, rfl, rfl, by simp [deliveries]⟩

theorem receivesAs_retransmitFired (seq : UInt16) (h : Handle) :
    ReceivesAs e ((retransmitFired seq h).run e).2 :=
  retransmitFired_cases e seq h (ReceivesAs.refl e) fun _ _ _ _ ↦
    ⟨⟨rfl, rfl, rfl, rfl, rfl⟩, fun _ h ↦ h.trans ⟨rfl, rfl, rfl, rfl, by simp⟩⟩

theorem receivesAs_keepAliveFired (h : Handle) : ReceivesAs e ((keepAliveFired h).run e).2 := by
  rw [run_keepAliveFired]
  split
  · exact ReceivesAs.refl e
  · dsimp only
    refine ReceivesAs.trans ?_ (.of_sameTalk (sameTalk_armKeepAlive _))
    have h₁ : ReceivesAs e { e with
        session := { e.session with timers := { e.session.timers with keepAlive := none } } } :=
      ⟨rfl, rfl, rfl, rfl, rfl⟩
    split
    · exact h₁.trans (receivesAs_transmit _ _)
    · exact h₁

theorem receivesAs_handshakeTimeout (h : Handle) : ReceivesAs e ((handshakeTimeout h).run e).2 := by
  rw [run_handshakeTimeout]
  split
  · exact ReceivesAs.refl e
  · split
    · exact ⟨rfl, rfl, rfl, rfl, rfl⟩
    · dsimp only
      rw [run_rearmHandshake]
      exact ⟨rfl, rfl, rfl, rfl, rfl⟩

end Act

/-! ### The delivery loop -/

namespace WindowMap

variable (w : WindowMap)

theorem heldList_eq_cons (hc : 0 < w.capacity) : ∃ T, w.heldList = w.held 0 :: T := by
  cases hL : w.heldList with
  | nil =>
    have hlen := congrArg List.length hL
    rw [length_heldList, List.length_nil] at hlen
    omega
  | cons x T =>
    have h0 : x = w.held 0 := by
      have h₁ := w.getElem?_heldList 0
      rw [hL, if_pos hc] at h₁
      simpa using h₁
    exact ⟨T, by rw [h0]⟩

/-- A window whose first number is a gap holds no run at its front. -/
theorem heldRun_of_held_zero (h : w.held 0 = none) : Receiver.heldRun w.heldList = [] := by
  by_cases hc : 0 < w.capacity
  · obtain ⟨T, hT⟩ := w.heldList_eq_cons hc
    rw [hT, h]
    rfl
  · have hnil : w.heldList = [] := List.eq_nil_of_length_eq_zero (by rw [length_heldList]; omega)
    rw [hnil]
    rfl

end WindowMap

namespace SegmentBuffer

variable {r : SegmentBuffer}

/-- Whether a well-formed buffer holds its first number, read off its window. -/
theorem WellFormed.isInUse_base (hb : r.WellFormed) : r.isInUse r.base = (r.view.held 0).isSome := by
  rw [hb.shows_view.isInUse]
  unfold WindowMap.inUse WindowMap.off
  rw [base_view, Seq.offset_self]
  rfl

theorem WellFormed.slot_base (hb : r.WellFormed) (hc : 0 < r.capacity) :
    r.slot r.base = some ((r.view.held 0).getD []) := by
  rw [hb.shows_view.slot]
  unfold WindowMap.slot? WindowMap.off
  rw [base_view, Seq.offset_self, capacity_view]
  exact if_pos hc

/-- A number has a free slot in a well-formed buffer exactly when its window holds nothing
there. -/
theorem WellFormed.free_iff (hb : r.WellFormed) (q : UInt16) :
    (r.hasSlot q && !r.isInUse q) = true ↔ r.view.heldList[r.view.off q]? = some none := by
  rw [hb.shows_view.hasSlot, hb.shows_view.isInUse, WindowMap.getElem?_heldList]
  unfold WindowMap.hasSlot WindowMap.inUse
  rw [capacity_view]
  by_cases ho : r.view.off q < r.capacity
  · rw [if_pos ho]
    cases r.view.held (r.view.off q) <;> simp [ho]
  · rw [if_neg ho]
    simp [ho]

end SegmentBuffer

namespace Endpoint

open Side

/-- What the delivery loop does from a receive ring `ring` starting one past the last delivered
number: it delivers the held run at the front, moves the last delivered number past it, and leaves
the ring slid past the run and the gap that ends it. -/
structure Drained (e e' : Endpoint) (ring : SegmentBuffer) : Prop where
  state : e'.session.state = e.session.state
  config : e'.session.info.config = e.session.info.config
  receiveAcked : e'.session.info.receiveAcked =
    e.session.info.receiveAcked + (Receiver.heldRun ring.view.heldList).length.toUInt16
  deliveries : deliveries e'.effects = deliveries e.effects ++ Receiver.heldRun ring.view.heldList
  ring : ∃ ring', e'.session.receiveRing = some ring' ∧
    ring'.view.heldList =
      Receiver.slide ring.view.heldList ((Receiver.heldRun ring.view.heldList).length + 1) ∧
    ring'.slotSize = ring.slotSize

/-- `e'` follows `e` by one step of the receiving half on the arrival `a`: it is connected, has
delivered what the receiver delivers, holds what the receiver is left holding, and has moved the
last delivered number past the deliveries. -/
structure Received (e e' : Endpoint) (a : Option (Nat × Bytes)) : Prop where
  connected : e'.session.state = .connected
  config : e'.session.info.config = e.session.info.config
  deliveries : deliveries e'.effects = deliveries e.effects ++ (e.session.receiver.step a).1
  receiver : e'.session.receiver = (e.session.receiver.step a).2
  receiveAcked : e'.session.info.receiveAcked =
    e.session.info.receiveAcked + (e.session.receiver.step a).1.length.toUInt16
  roomy : e'.session.Roomy

variable {e e₁ e₂ : Endpoint} {a : Option (Nat × Bytes)}

/-- `Received` from what the receiver's step gives. -/
theorem Received.of_step {out : List Bytes} {R : Receiver} (hstep : e.session.receiver.step a = (out, R))
    (hst : e₁.session.state = .connected) (hcfg : e₁.session.info.config = e.session.info.config)
    (hd : Side.deliveries e₁.effects = Side.deliveries e.effects ++ out)
    (hR : e₁.session.receiver = R)
    (hra : e₁.session.info.receiveAcked = e.session.info.receiveAcked + out.length.toUInt16)
    (hroomy : e₁.session.Roomy) : Received e e₁ a :=
  ⟨hst, hcfg, by rw [hstep]; exact hd, by rw [hstep]; exact hR, by rw [hstep]; exact hra, hroomy⟩

/-- A connected session that receives as before has received nothing. -/
theorem ReceivesAs.received (h : ReceivesAs e e₁) (hst : e₁.session.state = .connected)
    (hr : e.session.Roomy) : Received e e₁ none where
  connected := hst
  config := h.config
  deliveries := by rw [h.deliveries, Receiver.step_none, List.append_nil]
  receiver := by rw [h.receiver_eq, Receiver.step_none]
  receiveAcked := by
    rw [h.receiveAcked, Receiver.step_none]
    simp
  roomy := h.roomy hr

theorem ReceivesAs.trans_received (h : ReceivesAs e e₁) (h' : Received e₁ e₂ a) :
    Received e e₂ a where
  connected := h'.connected
  config := h'.config.trans h.config
  deliveries := by rw [h'.deliveries, h.deliveries, h.receiver_eq]
  receiver := by rw [h'.receiver, h.receiver_eq]
  receiveAcked := by rw [h'.receiveAcked, h.receiveAcked, h.receiver_eq]
  roomy := h'.roomy

/-- One delivery at the front of the loop, then the rest of the loop. -/
theorem Drained.cons {ring : SegmentBuffer} {q : Bytes}
    (hd : Drained { e with
      effects := e.effects ++ [.deliver q]
      session := { e.session with
        receiveRing := some (ring.advanceBase 1)
        info := { e.session.info with receiveAcked := e.session.info.receiveAcked + 1 } } }
      e₁ (ring.advanceBase 1))
    (hL₁ : (ring.advanceBase 1).view.heldList = Receiver.slide ring.view.heldList 1)
    (hrun : Receiver.heldRun ring.view.heldList =
      q :: Receiver.heldRun (ring.advanceBase 1).view.heldList) :
    Drained e e₁ ring := by
  refine ⟨hd.state, hd.config, ?_, ?_, ?_⟩
  · rw [hd.receiveAcked, hrun, List.length_cons]
    simp only [Nat.toUInt16_eq, UInt16.add_assoc, UInt16.ofNat_add, UInt16.ofNat_one, UInt16.add_comm]
  · rw [hd.deliveries, hrun]
    simp
  · obtain ⟨ring', hr', hL', hs'⟩ := hd.ring
    refine ⟨ring', hr', ?_, by rw [hs', SegmentBuffer.slotSize_advanceBase]⟩
    rw [hL', hL₁, Receiver.slide_slide, ← hL₁, hrun, List.length_cons]
    congr 1
    omega

theorem Received.trans_receivesAs (h : Received e e₁ a) (h' : ReceivesAs e₁ e₂) :
    Received e e₂ a where
  connected := h'.state.trans h.connected
  config := h'.config.trans h.config
  deliveries := by rw [h'.deliveries, h.deliveries]
  receiver := by rw [h'.receiver_eq, h.receiver]
  receiveAcked := by rw [h'.receiveAcked, h.receiveAcked]
  roomy := h'.roomy h.roomy

end Endpoint

namespace Act

open Endpoint Side

/-- The delivery loop, from a receive ring starting one past the last delivered number, with more
fuel than the held run is long. -/
theorem drainHeld_receives (e : Endpoint) {ring : SegmentBuffer} (hr : e.session.receiveRing = some ring)
    (hbase : ring.base = e.session.info.receiveAcked + 1) (hb : ring.WellFormed) {fuel : Nat}
    (hfuel : (Receiver.heldRun ring.view.heldList).length < fuel) :
    Drained e ((drainHeld fuel).run e).2 ring := by
  induction fuel generalizing e ring with
  | zero => exact absurd hfuel (Nat.not_lt_zero _)
  | succ fuel ih =>
    -- the loop reads the first number of the window, the one after the last delivered
    have hu := hb.isInUse_base
    rw [hbase] at hu
    have hL₁ : (ring.advanceBase 1).view.heldList = Receiver.slide ring.view.heldList 1 := by
      rw [SegmentBuffer.view_advanceBase, WindowMap.heldList_shift]
      rfl
    cases hq : ring.view.held 0 with
    | none =>
      -- a gap: the window moves past it and the loop ends
      rw [hq] at hu
      rw [run_drainHeld_of_not_inUse e hr hu]
      have hrun := ring.view.heldRun_of_held_zero hq
      refine ⟨rfl, rfl, ?_, ?_, ring.advanceBase 1, rfl, ?_, SegmentBuffer.slotSize_advanceBase _ _⟩
      · rw [hrun]
        simp
      · rw [hrun, List.append_nil]
      · rw [hL₁, hrun]
        rfl
    | some q =>
      -- a held payload: it is delivered, the window moves by one, and the loop goes on
      rw [hq] at hu
      have hc : 0 < ring.capacity := by simpa using ring.view.held_lt 0 q hq
      have hp : ring.slot (e.session.info.receiveAcked + 1) = some q := by
        rw [← hbase, hb.slot_base hc, hq]
        rfl
      rw [run_drainHeld_of_inUse e hr hu hp]
      have hrun : Receiver.heldRun ring.view.heldList =
          q :: Receiver.heldRun (ring.advanceBase 1).view.heldList := by
        obtain ⟨T, hT⟩ := ring.view.heldList_eq_cons (by rwa [SegmentBuffer.capacity_view])
        rw [hL₁, hT, hq, Receiver.slide_cons_one, Receiver.heldRun_append_none]
        rfl
      refine Drained.cons (ih _ rfl ?_ (hb.advanceBase 1) ?_) hL₁ hrun
      · rw [SegmentBuffer.base_advanceBase, hbase]
      · rw [hrun, List.length_cons] at hfuel
        omega

end Act

/-! ### A segment arriving while connected -/

namespace Act

open Endpoint Side

variable (e : Endpoint) {ring : SegmentBuffer}

theorem roomy_of_receiving (hr : e.session.receiveRing = some ring) (hring : e.session.Receiving ring) :
    e.session.Roomy := by
  intro _ ring' hr'
  rw [hr] at hr'
  cases hr'
  exact hring.room

/-- The expected payload is delivered, with the held run behind it. -/
theorem deliver_receives (hst : e.session.state = .connected) (hr : e.session.receiveRing = some ring)
    (hring : e.session.Receiving ring) (payload : Bytes) :
    Received e ((deliver (e.session.info.receiveAcked + 1) payload).run e).2 (some (0, payload)) := by
  have hrecv : e.session.receiver = ⟨ring.view.heldList⟩ := Session.receiver_of_connected hst hr
  have hlen : (Receiver.heldRun ring.view.heldList).length ≤ ring.capacity := by
    have := Receiver.length_heldRun_le ring.view.heldList
    rwa [WindowMap.length_heldList, SegmentBuffer.capacity_view] at this
  have hstep : e.session.receiver.step (some (0, payload)) =
      (payload :: Receiver.heldRun ring.view.heldList,
        ⟨Receiver.slide ring.view.heldList ((Receiver.heldRun ring.view.heldList).length + 1)⟩) := by
    rw [hrecv, Receiver.step_some, Receiver.take_zero]
  rw [run_deliver, hr, Option.map_some, Option.getD_some]
  -- the loop starts from the ring as it is, one past the payload just delivered
  have hd := drainHeld_receives { e with
      effects := e.effects ++ [.deliver payload]
      session := { e.session with info := { e.session.info with
        receiveAcked := e.session.info.receiveAcked + 1 } } } hr
    (by rw [hring.base, UInt16.add_assoc]; rfl) hring.wf (Nat.lt_succ_of_le hlen)
  obtain ⟨ring', hr', hL', hs'⟩ := hd.ring
  refine Received.of_step hstep (hd.state.trans hst) hd.config ?_ ?_ ?_ ?_
  · rw [hd.deliveries]
    simp
  · rw [Session.receiver_of_connected (hd.state.trans hst) hr', hL']
  · rw [hd.receiveAcked, List.length_cons]
    simp only [Nat.toUInt16_eq, UInt16.add_assoc, UInt16.ofNat_add, UInt16.ofNat_one, UInt16.add_comm]
  · intro _ ring'' hr''
    rw [hr'] at hr''
    cases hr''
    rw [hs', hd.config]
    exact hring.room

/-- A payload numbered further on is held when its slot is free, and dropped otherwise. -/
theorem hold_receives (hst : e.session.state = .connected) (hr : e.session.receiveRing = some ring)
    (hring : e.session.Receiving ring) {n : UInt16} (hne : n ≠ e.session.info.receiveAcked + 1)
    {payload : Bytes} (hp : payload.length ≤ e.session.info.config.maxSegmentSize.toNat) :
    Received e (if ring.hasSlot n && !ring.isInUse n then
        { e with session := { e.session with receiveRing := some (ring.store n payload).2 } } else e)
      (some ((Seq.offset n (e.session.info.receiveAcked + 1)).toNat, payload)) := by
  have hrecv : e.session.receiver = ⟨ring.view.heldList⟩ := Session.receiver_of_connected hst hr
  have hroomy := roomy_of_receiving e hr hring
  -- the payload's offset from the ring's first number, one past the expected number
  have hpos : 1 ≤ (Seq.offset n (e.session.info.receiveAcked + 1)).toNat := by
    rcases Nat.eq_zero_or_pos (Seq.offset n (e.session.info.receiveAcked + 1)).toNat with h0 | h0
    · have h₁ : Seq.offset n (e.session.info.receiveAcked + 1) = 0 := UInt16.toNat_inj.1 h0
      exact absurd (Seq.eq_of_offset_eq (h₁.trans (Seq.offset_self _).symm)) hne
    · exact h0
  have hoff : ring.view.off n + 1 = (Seq.offset n (e.session.info.receiveAcked + 1)).toNat := by
    unfold WindowMap.off
    rw [SegmentBuffer.base_view, hring.base, show e.session.info.receiveAcked + 2 =
      e.session.info.receiveAcked + 1 + 1 by rw [UInt16.add_assoc]; rfl,
      Seq.toNat_offset_add_right (by exact hpos)]
    have : (1 : UInt16).toNat = 1 := rfl
    omega
  have hstep : e.session.receiver.step (some ((Seq.offset n (e.session.info.receiveAcked + 1)).toNat,
      payload)) = ([], if ring.view.heldList[ring.view.off n]? = some none then
        ⟨ring.view.heldList.set (ring.view.off n) (some payload)⟩ else ⟨ring.view.heldList⟩) := by
    rw [← hoff, hrecv, Receiver.step_some, Receiver.take_succ]
    split <;> rfl
  by_cases hfree : (ring.hasSlot n && !ring.isInUse n) = true
  · -- a free slot: the window holds the payload there, whole
    have hL := (hring.wf.free_iff n).1 hfree
    rw [if_pos hL] at hstep
    rw [if_pos hfree]
    have hlt : ring.view.off n < ring.view.capacity := by
      obtain ⟨hlt, -⟩ := List.getElem?_eq_some_iff.1 hL
      rwa [WindowMap.length_heldList] at hlt
    have hstore : (ring.store n payload).2.view.heldList =
        ring.view.heldList.set (ring.view.off n) (some payload) := by
      rw [hring.wf.view_store]
      refine (WindowMap.heldList_put _ _ hlt).trans ?_
      rw [List.take_of_length_le (hp.trans hring.room)]
    refine Received.of_step hstep hst rfl (by simp) ?_ (by simp) ?_
    · refine (Session.receiver_of_connected
        (s := { e.session with receiveRing := some (ring.store n payload).2 }) hst rfl).trans ?_
      rw [hstore]
    · intro _ ring' hr'
      cases hr'
      rw [SegmentBuffer.slotSize_store]
      exact hring.room
  · -- an earlier copy is held there: nothing changes
    have hL : ¬ ring.view.heldList[ring.view.off n]? = some none :=
      fun h ↦ hfree ((hring.wf.free_iff n).2 h)
    rw [if_neg hL] at hstep
    rw [if_neg hfree]
    exact Received.of_step hstep hst rfl (by simp) hrecv (by simp) hroomy

/-- A segment arriving at a connected session whose receive ring is as its receiving half needs
it: the receiving half takes the segment's payload as the receiver does. -/
theorem segmentArrives_receives (hst : e.session.state = .connected)
    (hr : e.session.receiveRing = some ring) (hring : e.session.Receiving ring) (c : Common)
    (acks : List UInt16) {payload : Bytes}
    (hp : payload.length ≤ e.session.info.config.maxSegmentSize.toNat) :
    Received e ((segmentArrives c acks payload).run e).2 (e.session.info.arrivalOf c.seq payload) := by
  have hroomy := roomy_of_receiving e hr hring
  rw [run_segmentArrives]
  split
  · rename_i hw
    dsimp only
    -- the acknowledgments leave the receiving half alone
    have h₁ : ReceivesAs e (if c.flags.has .ack then ((acknowledge c.ack).run e).2 else e) := by
      split
      · exact receivesAs_acknowledge e c.ack
      · exact ReceivesAs.refl e
    generalize (if c.flags.has .ack then ((acknowledge c.ack).run e).2 else e) = e₁ at h₁ ⊢
    have h₂ : ReceivesAs e (if acks.isEmpty then e₁ else ((acknowledgeEach acks).run e₁).2) := by
      split
      · exact h₁
      · exact h₁.trans (receivesAs_acknowledgeEach e₁ acks)
    generalize (if acks.isEmpty then e₁ else ((acknowledgeEach acks).run e₁).2) = e₂ at h₂ ⊢
    have hst₂ : e₂.session.state = .connected := h₂.state.trans hst
    have hr₂ : e₂.session.receiveRing = some ring := h₂.receiveRing.trans hr
    have hring₂ : e₂.session.Receiving ring :=
      ⟨by rw [h₂.receiveAcked]; exact hring.base, by rw [h₂.config]; exact hring.capacity,
        by rw [h₂.config]; exact hring.room, hring.wf⟩
    split
    · -- no payload: nothing arrives
      rename_i hpe
      have ha : e.session.info.arrivalOf c.seq payload = none := by
        unfold Info.arrivalOf
        rw [hpe, Bool.not_true, Bool.and_false, if_neg Bool.false_ne_true]
      rw [ha]
      exact h₂.received hst₂ hroomy
    · rename_i hpe
      have ha : e.session.info.arrivalOf c.seq payload =
          some ((Seq.offset c.seq (e.session.info.receiveAcked + 1)).toNat, payload) := by
        unfold Info.arrivalOf
        rw [hw, Bool.eq_false_iff.2 hpe, Bool.not_false, Bool.and_true, if_pos rfl]
      rw [ha]
      refine h₂.trans_received (Received.trans_receivesAs ?_ (receivesAs_sendAck _))
      rw [← h₂.receiveAcked, ← h₂.config] at *
      split
      · -- the expected number: delivered with the held run behind it
        rename_i hseq
        rw [hseq, Seq.offset_self]
        exact deliver_receives e₂ hst₂ hr₂ hring₂ payload
      · -- further on: held when its slot is free
        rename_i hseq
        rw [hr₂]
        exact hold_receives e₂ hst₂ hr₂ hring₂ hseq hp
  · -- outside the window: only answered
    rename_i hw
    have ha : e.session.info.arrivalOf c.seq payload = none := by
      unfold Info.arrivalOf
      rw [Bool.eq_false_iff.2 hw, Bool.false_and, if_neg Bool.false_ne_true]
    rw [ha]
    exact (receivesAs_sendAck e).received ((receivesAs_sendAck e).state.trans hst) hroomy

end Act

end ReliableDatagram
