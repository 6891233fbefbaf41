import ReliableDatagram.Proofs.Reachable
/-!
# Cumulative acknowledgments

A cumulative acknowledgment of `a` says that every number up to and including `a` arrived. A
connected session whose oldest unacknowledged number is `b` takes it when `a + 1` lies between
`b` and `sendNext`, both ends included, measured forward from `b`: `b` and `sendNext` themselves
stand for "nothing new" and "everything sent". Taking it releases the cyclic range `[b, a]`
(`Seq.InRange`): the send ring and the retransmission queue both move to start at `a + 1`, the
slots and wake-ups of the released numbers are dropped, and every other held slot, with its
bytes, and every other wake-up stays (`Endpoint.TakesAck`). An acknowledgment outside that span
changes nothing.

The release is one forward move of the two windows by `a + 1 - b` numbers; what such a move does
to the schedule is `RetransmitQueue.has_advance`. Main statement
(`Endpoint.Reachable.cumulative_ack`): in every reachable connected endpoint, an acknowledgment
in the span is taken as `TakesAck` says, any other leaves the endpoint as it was, and in both
cases the oldest unacknowledged number does not pass `sendNext`.
-/

namespace ReliableDatagram

namespace Seq

/-- `n` lies in the cyclic range of the numbers from `b` up to and including `a`: it is fewer
steps past `b` than `a + 1` is. The range is empty when `a + 1 = b`. -/
def InRange (n b a : UInt16) : Prop :=
  (offset n b).toNat < (offset (a + 1) b).toNat

instance (n b a : UInt16) : Decidable (InRange n b a) :=
  inferInstanceAs (Decidable (_ < _))

end Seq

namespace RetransmitQueue

variable {q : RetransmitQueue}

/-- Withdrawing the wake-ups of the entries at the first `j` offsets withdraws exactly the
handles of the live entries fewer than `j` numbers past the base. -/
theorem has_cancelAll_take (hq : q.capacity < 256) (s : Schedule) (j : Nat) {h : Handle}
    {t : Timer} : (cancelAll s (q.entries.take j)).Has h t ↔
      s.Has h t ∧ ∀ n, (Seq.offset n q.base).toNat < j → q.handles n ≠ some h := by
  rw [has_cancelAll]
  refine and_congr_right fun _ ↦ ⟨fun hall n hn hh ↦ ?_, fun hall x hx hxh ↦ ?_⟩
  · obtain ⟨e, he, rfl⟩ := Option.map_eq_some_iff.1 hh
    exact hall (some e) ((mem_take_entries_iff hq).2 ⟨n, he, hn⟩) rfl
  · obtain ⟨e, rfl, rfl⟩ := Option.map_eq_some_iff.1 hxh
    obtain ⟨n, hn, hk⟩ := (mem_take_entries_iff hq).1 hx
    exact hall n hk (by simp [handles, hn])

/-- Moving the window forward by `k` withdraws exactly the wake-ups of the live entries fewer
than `k` numbers past the old base, and no other. -/
theorem has_advance (hq : q.capacity < 256) (s : Schedule) (k : UInt16) {h : Handle}
    {t : Timer} : (q.advance s k).2.Has h t ↔
      s.Has h t ∧ ∀ n, (Seq.offset n q.base).toNat < k.toNat → q.handles n ≠ some h := by
  by_cases hk : k.toNat < q.capacity
  · have hsched : (q.advance s k).2 = cancelAll s (q.entries.take k.toNat) := by
      unfold advance
      rw [if_neg (Nat.not_le.2 hk)]
    rw [hsched, has_cancelAll_take hq]
  -- a move past the whole window drops every entry; past the capacity no number has one
  have hsched : (q.advance s k).2 = cancelAll s (q.entries.take q.capacity) := by
    unfold advance
    rw [if_pos (Nat.le_of_not_lt hk)]
    show cancelAll s q.entries = _
    rw [List.take_of_length_le (show q.entries.length ≤ q.capacity from Nat.le_refl _)]
  rw [hsched, has_cancelAll_take hq]
  refine and_congr_right fun _ ↦ ⟨fun hall n hn ↦ ?_, fun hall n hn ↦ hall n (by omega)⟩
  by_cases hc : (Seq.offset n q.base).toNat < q.capacity
  · exact hall n hc
  · simp [handles, entry?_eq_none_of_le (Nat.le_of_not_lt hc)]

end RetransmitQueue

namespace Endpoint

/-- What taking a cumulative acknowledgment of `a` does to `e`, ending at `e'`, where `send` and
`queue` are the send ring and retransmission queue of `e` and `b = sendUnacked`: the oldest
unacknowledged number becomes `a + 1` and nothing else of the connection information changes;
both windows start at `a + 1`; a number stays in use in the send ring, with its bytes, exactly
when it was in use and lies outside `[b, a]`; the entries of `[b, a]` are dropped and all others
kept; and the pending wake-ups are those that were pending, less the ones of the entries of
`[b, a]`. -/
structure TakesAck (e : Endpoint) (send : SegmentBuffer) (queue : RetransmitQueue) (a : UInt16)
    (e' : Endpoint) : Prop where
  info : e'.session.info = { e.session.info with sendUnacked := a + 1 }
  ring : ∃ send', e'.session.sendRing = some send' ∧ send'.base = a + 1 ∧
    (∀ n, send'.isInUse n = true ↔
      send.isInUse n = true ∧ ¬ Seq.InRange n e.session.info.sendUnacked a) ∧
    ∀ n, send'.isInUse n = true → send'.slot n = send.slot n
  entries : ∃ queue', e'.session.retransmit = some queue' ∧ queue'.base = a + 1 ∧
    ∀ n, RetransmitQueue.entry? queue' n =
      if Seq.InRange n e.session.info.sendUnacked a then none else queue.entry? n
  timers : ∀ h t, e'.schedule.Has h t ↔
    e.schedule.Has h t ∧ ∀ n, Seq.InRange n e.session.info.sendUnacked a → queue.handles n ≠ some h

variable {e : Endpoint} {r : Config} {send : SegmentBuffer} {queue : RetransmitQueue} {recv : SegmentBuffer}

/-- An acknowledgment of `b - 1`, the number before the oldest unacknowledged one, is taken
by leaving everything as it is: the range it releases is empty. -/
theorem takesAck_self (hs : e.session.sendRing = some send) (hq : e.session.retransmit = some queue)
    (hw : Session.Windows e.session.info r send queue recv) {a : UInt16}
    (ha : a + 1 = e.session.info.sendUnacked) : e.TakesAck send queue a e := by
  have hnot : ∀ n, ¬ Seq.InRange n e.session.info.sendUnacked a := fun n ↦ by
    simp [Seq.InRange, ha]
  refine ⟨by rw [ha], ⟨send, hs, by rw [hw.send_base, ha], fun n ↦ ?_, fun _ _ ↦ rfl⟩,
    ⟨queue, hq, by rw [hw.queue_base, ha], fun n ↦ by rw [if_neg (hnot n)]⟩, fun h t ↦ ?_⟩
  · exact ⟨fun hu ↦ ⟨hu, hnot n⟩, And.left⟩
  · exact ⟨fun hh ↦ ⟨hh, fun n hn ↦ absurd hn (hnot n)⟩, And.left⟩

/-- An acknowledgment of `a` with `a + 1` strictly past `b` and not past `sendNext` moves both
windows forward by `a + 1 - b`, which is what `TakesAck` says. -/
theorem takesAck_advance (hw : Session.Windows e.session.info r send queue recv) (a : UInt16) :
    e.TakesAck send queue a { e with
      schedule := (queue.advance e.schedule (Seq.offset (a + 1) e.session.info.sendUnacked)).2
      session := { e.session with
        sendRing := some (send.advanceBase (Seq.offset (a + 1) e.session.info.sendUnacked))
        retransmit := some (queue.advance e.schedule (Seq.offset (a + 1) e.session.info.sendUnacked)).1
        info := { e.session.info with sendUnacked := a + 1 } } } := by
  set b := e.session.info.sendUnacked
  set k := Seq.offset (a + 1) b
  have hsmall : queue.capacity < 256 := by
    rw [hw.queue_capacity]
    exact r.maxOutstanding.toNat_lt
  -- the new base: `b` moved forward by the distance to `a + 1`
  have hbase : b + k = a + 1 := Seq.add_offset (a + 1) b
  refine ⟨rfl, ⟨send.advanceBase k, rfl, ?_, fun n ↦ ?_, fun n ↦ ?_⟩,
    ⟨_, rfl, ?_, fun n ↦ ?_⟩, fun h t ↦ ?_⟩
  · rw [SegmentBuffer.base_advanceBase, hw.send_base, hbase]
  · rw [SegmentBuffer.isInUse_advanceBase hw.send_wf, hw.send_base, Bool.and_eq_true, decide_eq_true_iff]
    unfold Seq.InRange
    rw [Nat.not_lt]
    exact and_comm
  · exact SegmentBuffer.WellFormed.slot_advanceBase hw.send_wf
  · rw [RetransmitQueue.base_advance, hw.queue_base, hbase]
  · rw [RetransmitQueue.entry?_advance hsmall, hw.queue_base]
    by_cases hn : Seq.InRange n b a
    · rw [if_pos hn, if_neg (Nat.not_le.2 hn)]
    · rw [if_neg hn, if_pos (Nat.le_of_not_lt hn)]
  · rw [RetransmitQueue.has_advance hsmall, hw.queue_base]
    rfl

/-- An acknowledgment that a reachable connected session takes or ignores: with `a + 1` between
the oldest unacknowledged number and `sendNext`, it is taken as `TakesAck` says; otherwise
nothing changes. -/
theorem acknowledge_of_windows (hs : e.session.sendRing = some send)
    (hq : e.session.retransmit = some queue) (hw : Session.Windows e.session.info r send queue recv)
    (a : UInt16) :
    (Seq.offset (a + 1) e.session.info.sendUnacked ≤
        Seq.offset e.session.info.sendNext e.session.info.sendUnacked →
      e.TakesAck send queue a ((Act.acknowledge a).run e).2) ∧
    (¬ Seq.offset (a + 1) e.session.info.sendUnacked ≤
        Seq.offset e.session.info.sendNext e.session.info.sendUnacked →
      ((Act.acknowledge a).run e).2 = e) := by
  have hrun := Act.run_acknowledge e hs hq a
  rw [hw.send_base] at hrun
  refine ⟨fun hk ↦ ?_, fun hk ↦ ?_⟩
  · by_cases hk0 : Seq.offset (a + 1) e.session.info.sendUnacked = 0
    · rw [hrun, if_pos (.inr hk0)]
      -- nothing new is acknowledged: `a + 1` is the oldest unacknowledged number itself
      have ha : a + 1 = e.session.info.sendUnacked :=
        Seq.eq_of_offset_eq (hk0.trans (Seq.offset_self _).symm)
      exact takesAck_self hs hq hw ha
    · rw [hrun, if_neg (not_or.2 ⟨Std.not_lt.2 hk, hk0⟩)]
      exact takesAck_advance hw a
  · rw [hrun, if_pos (.inl (Std.not_le.1 hk))]

/-- **Cumulative acknowledgment acceptance.** In every reachable connected endpoint, with send
ring `send`, retransmission queue `queue` and oldest unacknowledged number `b`: an
acknowledgment of `a` with `a + 1` no further past `b` than `sendNext` is taken as `TakesAck`
says, releasing exactly `[b, a]`; any other leaves the endpoint as it was; and either way the
oldest unacknowledged number afterwards is no further past `b` than `sendNext`. -/
theorem Reachable.cumulative_ack (h : e.Reachable) (hst : e.session.state = .connected)
    (a : UInt16) :
    ∃ send queue, e.session.sendRing = some send ∧ e.session.retransmit = some queue ∧
      (Seq.offset (a + 1) e.session.info.sendUnacked ≤
          Seq.offset e.session.info.sendNext e.session.info.sendUnacked →
        e.TakesAck send queue a ((Act.acknowledge a).run e).2) ∧
      (¬ Seq.offset (a + 1) e.session.info.sendUnacked ≤
          Seq.offset e.session.info.sendNext e.session.info.sendUnacked →
        ((Act.acknowledge a).run e).2 = e) ∧
      Seq.offset ((Act.acknowledge a).run e).2.session.info.sendUnacked e.session.info.sendUnacked ≤
        Seq.offset ((Act.acknowledge a).run e).2.session.info.sendNext e.session.info.sendUnacked := by
  obtain ⟨r, send, queue, recv, -, hs, hq, -, hw⟩ := h.invariant.windowed hst
  obtain ⟨htaken, hignored⟩ := acknowledge_of_windows hs hq hw a
  refine ⟨send, queue, hs, hq, htaken, hignored, ?_⟩
  by_cases hk : Seq.offset (a + 1) e.session.info.sendUnacked ≤
      Seq.offset e.session.info.sendNext e.session.info.sendUnacked
  · rw [(htaken hk).info]
    exact hk
  · rw [hignored hk, Seq.offset_self]
    exact UInt16.zero_le

/-- The connected endpoint reached by completing a handshake, taking an acknowledgment of its
SYN's number: nothing is outstanding, so nothing is released. -/
theorem synAcked_cumulative_ack : synAcked.Reachable ∧ synAcked.session.state = .connected ∧
    ∃ send queue, synAcked.session.sendRing = some send ∧ synAcked.session.retransmit = some queue ∧
      (Seq.offset (0 + 1) synAcked.session.info.sendUnacked ≤
          Seq.offset synAcked.session.info.sendNext synAcked.session.info.sendUnacked →
        synAcked.TakesAck send queue 0 ((Act.acknowledge 0).run synAcked).2) ∧
      (¬ Seq.offset (0 + 1) synAcked.session.info.sendUnacked ≤
          Seq.offset synAcked.session.info.sendNext synAcked.session.info.sendUnacked →
        ((Act.acknowledge 0).run synAcked).2 = synAcked) ∧
      Seq.offset ((Act.acknowledge 0).run synAcked).2.session.info.sendUnacked
          synAcked.session.info.sendUnacked ≤
        Seq.offset ((Act.acknowledge 0).run synAcked).2.session.info.sendNext
          synAcked.session.info.sendUnacked :=
  ⟨synAcked_reachable, synAcked_connected,
    Reachable.cumulative_ack synAcked_reachable synAcked_connected 0⟩

end Endpoint

end ReliableDatagram
