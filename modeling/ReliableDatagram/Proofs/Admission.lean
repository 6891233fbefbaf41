import ReliableDatagram.Proofs.Guards
/-!
# Which payloads a session admits

A payload offered for sending is admitted exactly when the session can send (it is connected and
`sendNext` lies in the peer's window, `Session.canSend`) and the payload is nonempty and fits
the peer's segment size less the 14-byte header (`Session.Admits`). Otherwise the offer is
refused with the first reason in a fixed order: not connected, empty, too large, window full
(`Session.refusal`).

An admitted payload is numbered `sendNext`: exactly one datagram goes out, a data segment
carrying the payload under that number and acknowledging the last delivered one, one
retransmission wake-up is scheduled for that number, the number is reported, and `sendNext`
moves on by one (`Endpoint.Accepted`). A refused offer changes nothing at all.

Main statement (`Endpoint.Reachable.send_exactly_when_allowed`): in every reachable endpoint,
`canSend` is the window test on the peer's window, and an offer is accepted exactly when it is
admitted, as `Accepted` says, and refused otherwise, by `refusal`, with the endpoint unchanged.
Two things that the engine checks on the way never fail in a reachable session: the windows of
a connected session exist, and a payload that fits serializes behind its header.
-/

namespace ReliableDatagram

namespace Segment

/-- `d` reads back as a data segment: an acknowledgment with ACK and CHK set, numbered `seq`,
acknowledging `ack` and carrying `p`. -/
def CarriesData (seq ack : UInt16) (p d : Bytes) : Prop :=
  ∃ seg, parse d = .ok seg ∧ seg.payload = p ∧ seg.header.kind = .ack ∧
    seg.header.common.flags.has .ack = true ∧ seg.header.common.flags.has .chk = true ∧
    seg.header.common.seq = seq ∧ seg.header.common.ack = ack

end Segment

namespace Header

/-- The segment of a data header with a nonempty payload reads back as a data segment carrying
that payload. -/
theorem carriesData_encode {seq ack : UInt16} {p : Bytes} {hdr : Header} {d : Bytes}
    (hp : p ≠ []) (hl : p.length ≤ 65535)
    (he : (buildData seq ack p.length.toUInt16).encode p = .ok (hdr, d)) :
    Segment.CarriesData seq ack p d := by
  have hs := (Built.data seq ack p.length.toUInt16).sendable
  have hlen : p.length = (buildData seq ack p.length.toUInt16).payloadLength.toNat := by
    simp only [buildData, payloadLength, UInt16.toNat_ofNat', Nat.toUInt16_eq]
    omega
  rw [encode_eq_of_fits (checkPayload_eq_ok hs.formed hlen) hs.fits] at he
  obtain ⟨-, rfl⟩ := Prod.mk.inj (Except.ok.inj he)
  -- a nonempty payload makes the builder set CHK
  have hpos : decide (p.length.toUInt16 > 0) = true := by
    have := List.length_pos_iff.2 hp
    simp only [gt_iff_lt, decide_eq_true_eq, UInt16.lt_iff_toNat_lt, UInt16.toNat_zero,
      UInt16.toNat_ofNat', Nat.toUInt16_eq]
    omega
  refine ⟨_, parse_stamp hs hlen, rfl, by rw [kind_stamp]; rfl, ?_, ?_, ?_, ?_⟩ <;>
    simp only [stamp, common_setCommon] <;>
    simp only [buildData, fresh, common, Option.isSome_some, hpos, Option.getD_some] <;> decide

end Header

namespace Session

/-- A payload `p` is admitted: the session can send, and `p` is nonempty and fits the peer's
segment size less the 14-byte header of a data segment. -/
def Admits (s : Session) (p : Bytes) : Prop :=
  s.canSend = true ∧ ∃ r, s.info.remote = some r ∧ 1 ≤ p.length ∧
    p.length ≤ r.maxSegmentSize.toNat - ackHeaderLength

/-- Why an offer is refused, the first reason in this order: the session is not connected, the
payload is empty, it is larger than the peer's segment size less the header, the window is
full. -/
def refusal (s : Session) (p : Bytes) : SendError :=
  match s.state, s.info.remote with
  | .connected, some r =>
    if p.length < 1 then .emptyPayload
    else if r.maxSegmentSize.toNat - ackHeaderLength < p.length then
      .payloadTooLarge p.length (r.maxSegmentSize.toNat - ackHeaderLength)
    else .windowFull
  | _, _ => .notConnected

/-- A session can send only while connected. -/
theorem state_of_canSend {s : Session} (h : s.canSend = true) : s.state = .connected := by
  simp only [canSend, Bool.and_eq_true, beq_iff_eq] at h
  exact h.1

/-- With its windows in place, a connected session can send exactly when `sendNext` lies within
the peer's window from the oldest unacknowledged number. -/
theorem canSend_iff_of_windowed {s : Session} (hst : s.state = .connected) (hw : s.Windowed) :
    s.canSend = true ↔ ∃ r ring, s.info.remote = some r ∧ s.sendRing = some ring ∧
      (Seq.offset s.info.sendNext ring.base).toNat < r.maxOutstanding.toNat := by
  obtain ⟨r, send, queue, recv, hr, hs, -, -, hw⟩ := hw
  simp only [canSend, hst, hs, beq_self_eq_true, Bool.true_and, Option.map_some,
    Option.getD_some, SegmentBuffer.hasSlot, decide_eq_true_eq, hw.send_capacity]
  constructor
  · exact fun h ↦ ⟨r, send, hr, rfl, h⟩
  · rintro ⟨r', send', hr', hs', h⟩
    cases hr.symm.trans hr'
    cases hs'
    exact h

end Session

namespace Endpoint

/-- What accepting payload `p` does to `e`, ending at `e'`: under the number `n = sendNext`, one
datagram goes out, a data segment carrying `p` under `n` and acknowledging the last delivered
number, then `n` is reported; one retransmission wake-up for `n` is scheduled and none
withdrawn; `sendNext` moves on by one and nothing else of the connection information or the
state changes. -/
structure Accepted (e : Endpoint) (p : Bytes) (e' : Endpoint) : Prop where
  effects : ∃ d, e'.effects = e.effects ++ [.transmit d, .accepted e.session.info.sendNext] ∧
    Segment.CarriesData e.session.info.sendNext e.session.info.receiveAcked p d
  schedule : e'.schedule =
    (e.schedule.add e.session.info.config.retransmissionDelay
      (.retransmission e.session.info.sendNext)).2
  info : e'.session.info = { e.session.info with sendNext := e.session.info.sendNext + 1 }
  state : e'.session.state = e.session.state

end Endpoint

namespace Act

variable (e : Endpoint)

theorem run_send_of_connected (hst : e.session.state = .connected) (p : Bytes) :
    (send p).run e = (sendData p).run e := by
  simp only [send, run_bind, run_session, hst, ↓reduceIte]

theorem run_send_of_not_connected (hst : e.session.state ≠ .connected) (p : Bytes) :
    (send p).run e = (.error .notConnected, e) := by
  simp only [send, run_bind, run_session, hst, ↓reduceIte, run_pure]

section Refused

variable {e} {r : Config} (hr : e.session.info.remote = some r) {p : Bytes}
include hr

/-- The offer of an empty payload is refused, with nothing changed. -/
theorem run_sendData_empty (hp : p = []) : (sendData p).run e = (.error .emptyPayload, e) := by
  subst hp
  rw [sendData, run_bind, run_session]
  simp only [hr, List.isEmpty_nil, ↓reduceIte]
  rfl

/-- The offer of a payload longer than the peer's segment size less the header is refused, with
nothing changed. -/
theorem run_sendData_tooLarge (hp : p ≠ []) (hl : r.maxSegmentSize.toNat - ackHeaderLength < p.length) :
    (sendData p).run e =
      (.error (.payloadTooLarge p.length (r.maxSegmentSize.toNat - ackHeaderLength)), e) := by
  have he : p.isEmpty = false := by simpa using hp
  rw [sendData, run_bind, run_session]
  simp only [hr, he, gt_iff_lt, hl, ↓reduceIte, Bool.false_eq_true]
  rfl

/-- An offer that fits is refused while the window is full, with nothing changed. -/
theorem run_sendData_windowFull (hp : p ≠ []) (hl : p.length ≤ r.maxSegmentSize.toNat - ackHeaderLength)
    (hc : e.session.canSend = false) : (sendData p).run e = (.error .windowFull, e) := by
  have he : p.isEmpty = false := by simpa using hp
  have hl' : ¬ r.maxSegmentSize.toNat - ackHeaderLength < p.length := Nat.not_lt.2 hl
  rw [sendData, run_bind, run_session]
  simp only [hr, he, gt_iff_lt, hl', hc, ↓reduceIte, Bool.false_eq_true, Bool.not_false]
  rfl

end Refused

/-- A connected session with its windows in place accepts an admitted payload: the segment is
stored and transmitted, its wake-up is the next handle of the schedule, and nothing is
withdrawn since the number to send has no entry yet. -/
theorem run_sendData_accepted {r : Config} {send : SegmentBuffer} {queue : RetransmitQueue}
    {recv : SegmentBuffer} (hr : e.session.info.remote = some r) (hs : e.session.sendRing = some send)
    (hq : e.session.retransmit = some queue)
    (hw : Session.Windows e.session.info r send queue recv) {p : Bytes}
    (hadm : e.session.Admits p) : ((sendData p).run e).1 = .ok () ∧
      e.Accepted p ((sendData p).run e).2 := by
  obtain ⟨hc, r', hr', hp1, hl⟩ := hadm
  cases hr.symm.trans hr'
  have hp : p ≠ [] := List.ne_nil_of_length_pos hp1
  rcases run_sendData e p with ⟨err, hrun⟩ | ⟨r', ring, queue', hdr, bytes, hr', hs', hq', -, -, -, he, hrun⟩
  · -- every check passes and the segment serializes, so the offer is not refused
    have hfit : p.length ≤ 65535 := by
      have := r.maxSegmentSize.toNat_lt
      omega
    obtain ⟨⟨hdr, bytes⟩, he⟩ := (Header.Built.data e.session.info.sendNext
      e.session.info.receiveAcked p.length.toUInt16).exists_encode_eq_ok p (by
        simp only [Header.buildData, Header.payloadLength, UInt16.toNat_ofNat', Nat.toUInt16_eq]
        omega)
    have hne : p.isEmpty = false := by simpa using hp
    have hl' : ¬ r.maxSegmentSize.toNat - ackHeaderLength < p.length := Nat.not_lt.2 hl
    rw [sendData, run_bind, run_session] at hrun
    simp only [hr, hne, gt_iff_lt, hl', hc, hs, hq, he, ↓reduceIte, Bool.false_eq_true,
      Bool.not_true] at hrun
    cases hrun
  cases hs.symm.trans hs'
  cases hq.symm.trans hq'
  rw [hrun]
  -- the number to send has a slot in the queue and no live entry
  have hoff : (Seq.offset e.session.info.sendNext queue.base).toNat < queue.capacity := by
    have := hc
    simp only [Session.canSend, Bool.and_eq_true, beq_iff_eq, hs, Option.map_some,
      Option.getD_some, SegmentBuffer.hasSlot, decide_eq_true_eq] at this
    rw [hw.queue_base, hw.queue_capacity, ← hw.send_capacity, ← hw.send_base]
    exact this.2
  have hnone : queue.entry? e.session.info.sendNext = none := by
    cases hx : queue.entry? e.session.info.sendNext with
    | none => rfl
    | some x =>
      have := hw.live_lt e.session.info.sendNext (by simp [hx])
      omega
  have hadd := RetransmitQueue.add_of_offset? (RetransmitQueue.offset?_eq_some_iff.2 ⟨rfl, hoff⟩)
    e.schedule e.session.info.config.retransmissionDelay
  have hfit : p.length ≤ 65535 := by
    have := r.maxSegmentSize.toNat_lt
    omega
  refine ⟨rfl, ⟨bytes, ?_, Header.carriesData_encode hp hfit he⟩, ?_, rfl, rfl⟩
  · simp only [List.append_assoc, List.cons_append, List.nil_append]
  · rw [hadd]
    simp [RetransmitQueue.handles, hnone, Schedule.cancel?]

end Act

namespace Endpoint

variable {e : Endpoint}

/-- A reachable session refuses an offer it does not admit, for the first reason of `refusal`
and with nothing changed: by state, then by the checks in order. -/
theorem Reachable.run_send_of_not_admits (h : e.Reachable) (p : Bytes) (hadm : ¬ e.session.Admits p) :
    (Act.send p).run e = (.error (e.session.refusal p), e) := by
  by_cases hst : e.session.state = .connected
  swap
  · rw [Act.run_send_of_not_connected e hst p]
    unfold Session.refusal
    split
    · rename_i hs _
      exact absurd hs hst
    · rfl
  obtain ⟨r, send, queue, recv, hr, hs, hq, -, hw⟩ := h.invariant.windowed hst
  rw [Act.run_send_of_connected e hst p]
  simp only [Session.refusal, hst, hr]
  by_cases hp : p = []
  · rw [Act.run_sendData_empty hr hp, hp]
    rfl
  have hp1 : 1 ≤ p.length := List.length_pos_iff.2 hp
  have hp1' : ¬ p.length < 1 := Nat.not_lt.2 hp1
  by_cases hl : r.maxSegmentSize.toNat - ackHeaderLength < p.length
  · rw [Act.run_sendData_tooLarge hr hp hl]
    simp only [hp1', hl, ↓reduceIte]
  have hc : e.session.canSend = false := by
    cases hc : e.session.canSend with
    | false => rfl
    | true => exact absurd ⟨hc, r, hr, hp1, Nat.le_of_not_lt hl⟩ hadm
  rw [Act.run_sendData_windowFull hr hp (Nat.le_of_not_lt hl) hc]
  simp only [hp1', hl, ↓reduceIte]

/-- **Sending succeeds exactly when allowed, and is atomic on failure.** In every reachable
endpoint: the session can send exactly when it is connected and `sendNext` lies within the
peer's window from the send ring's base; an offer is accepted exactly when it is admitted, and
then does what `Accepted` says; any other offer is refused for the first reason of `refusal`,
with the endpoint left exactly as it was. -/
theorem Reachable.send_exactly_when_allowed (h : e.Reachable) (p : Bytes) :
    (e.session.canSend = true ↔ e.session.state = .connected ∧ ∃ r ring,
      e.session.info.remote = some r ∧ e.session.sendRing = some ring ∧
      (Seq.offset e.session.info.sendNext ring.base).toNat < r.maxOutstanding.toNat) ∧
    (((Act.send p).run e).1 = .ok () ↔ e.session.Admits p) ∧
    (e.session.Admits p → e.Accepted p ((Act.send p).run e).2) ∧
    (¬ e.session.Admits p → (Act.send p).run e = (.error (e.session.refusal p), e)) := by
  have hinv := h.invariant
  have hrefused := h.run_send_of_not_admits p
  -- an admitted offer: the session is connected with its windows in place
  have haccepted : e.session.Admits p → ((Act.send p).run e).1 = .ok () ∧
      e.Accepted p ((Act.send p).run e).2 := by
    intro hadm
    have hst := Session.state_of_canSend hadm.1
    obtain ⟨r, send, queue, recv, hr, hs, hq, -, hw⟩ := hinv.windowed hst
    rw [Act.run_send_of_connected e hst p]
    exact Act.run_sendData_accepted e hr hs hq hw hadm
  refine ⟨⟨fun hc ↦ ?_, fun ⟨hst, hex⟩ ↦ ?_⟩, ⟨fun hok ↦ ?_, fun hadm ↦ (haccepted hadm).1⟩,
    fun hadm ↦ (haccepted hadm).2, hrefused⟩
  · have hst := Session.state_of_canSend hc
    exact ⟨hst, (Session.canSend_iff_of_windowed hst (hinv.windowed hst)).1 hc⟩
  · exact (Session.canSend_iff_of_windowed hst (hinv.windowed hst)).2 hex
  · by_contra hadm
    rw [hrefused hadm] at hok
    cases hok

/-- The connected endpoint reached by completing a handshake accepts a payload of three bytes. -/
theorem synAcked_sends_when_allowed : synAcked.Reachable ∧
    (synAcked.session.canSend = true ↔ synAcked.session.state = .connected ∧ ∃ r ring,
      synAcked.session.info.remote = some r ∧ synAcked.session.sendRing = some ring ∧
      (Seq.offset synAcked.session.info.sendNext ring.base).toNat < r.maxOutstanding.toNat) ∧
    (((Act.send [1, 2, 3]).run synAcked).1 = .ok () ↔ synAcked.session.Admits [1, 2, 3]) ∧
    (synAcked.session.Admits [1, 2, 3] →
      synAcked.Accepted [1, 2, 3] ((Act.send [1, 2, 3]).run synAcked).2) ∧
    (¬ synAcked.session.Admits [1, 2, 3] → (Act.send [1, 2, 3]).run synAcked =
      (.error (synAcked.session.refusal [1, 2, 3]), synAcked)) :=
  ⟨synAcked_reachable, Reachable.send_exactly_when_allowed synAcked_reachable [1, 2, 3]⟩

end Endpoint

end ReliableDatagram
