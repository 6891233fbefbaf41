import ReliableDatagram.Proofs.Outstanding
import ReliableDatagram.Proofs.Admission
/-!
# Retransmission is faithful and bounded

A payload accepted under number `n` goes out at once, and again each time the retransmission
wake-up of `n` is delivered while `n` is unacknowledged and has retries left. This module follows
such a segment along every run of events that accepts no other payload under `n`.

The segment passes through three states of the endpoint:

* `Endpoint.Copy n d c`: while `n` is in use in the send ring its slot holds `d`, the datagram
  first sent, and an entry for `n` counts `c` retransmissions;
* `Endpoint.Dropped n`: no entry for `n` is left, so nothing resends it;
* `n` released: it is no longer in use in the send ring (`Endpoint.Unacked` fails).

Every event that neither accepts nor fires `n` keeps each of them (`Endpoint.Spares`).
Delivering the wake-up of `n` does one of three things (`Endpoint.fire_cases`): it leaves `n`
alone but for dropping its entry (`FiresQuietly`); it resends the bytes of the slot and counts
one more transmission, when the entry has retries left and the slot is in use (`Resends`); or,
when the retries are used up while `n` is in use, it sends one RST and enters `disconnecting`
(`GivesUp`). `Endpoint.Trail` records where the copies of `n` stand along a run: one event keeps
it (`Reachable.trail_handle`), hence so does every run (`Reachable.trail_foldl`).

Main statement (`Endpoint.Reachable.retransmission_faithful`): when a reachable session accepts
a payload, its datagram `d` goes out under `n`, and from then on the session retransmits `n` as
`Endpoint.Retransmits` says: at most the retry limit of copies of `d`, then one RST only after
exactly that many; nothing once `n` is released; and the last delivery gives the connection up.
-/

namespace ReliableDatagram

namespace Segment

/-- `d` reads back as an RST without payload that carries ACK, numbered `seq` and acknowledging
`ack`. -/
def ResetsAt (seq ack : UInt16) (d : Bytes) : Prop :=
  ∃ seg, parse d = .ok seg ∧ seg.payload = [] ∧ seg.header.kind = .rst ∧
    seg.header.common.flags.has .ack = true ∧ seg.header.common.seq = seq ∧
    seg.header.common.ack = ack

theorem ResetsAt.resets {seq ack : UInt16} {d : Bytes} (h : ResetsAt seq ack d) : Resets d := by
  obtain ⟨seg, hp, -, hk, -⟩ := h
  exact ⟨seg, hp, hk⟩

end Segment

theorem Header.ReadsAs.resetsAt_buildRst {seq ack : UInt16} {d : Bytes}
    (hd : (Header.buildRst 0 seq (some ack)).ReadsAs d) : Segment.ResetsAt seq ack d := by
  obtain ⟨seg, hp, hpl, hk, hf, hs, ha⟩ := hd
  refine ⟨seg, hp, hpl, hk, ?_, hs, ha⟩
  rw [hf]
  simp only [Header.buildRst, Header.fresh, Header.common, Option.isSome_some]
  decide

/-- One more transmission below the limit does not saturate the count. -/
theorem UInt8.toNat_add_one_of_lt {a m : UInt8} (h : a < m) : (a + 1).toNat = a.toNat + 1 := by
  have h₁ := UInt8.lt_iff_toNat_lt.1 h
  have h₂ := m.toNat_lt
  rw [UInt8.toNat_add, UInt8.toNat_one]
  omega

theorem UInt8.ne_max_of_lt {a m : UInt8} (h : a < m) : a ≠ 255 := by
  intro ha
  have h₁ := UInt8.lt_iff_toNat_lt.1 h
  have h₂ := m.toNat_lt
  rw [ha] at h₁
  simp only [UInt8.reduceToNat] at h₁
  omega

/-- A fresh entry counts no retransmission. -/
theorem RetransmitQueue.transmissions_of_entry?_add {q : RetransmitQueue} {s : Schedule}
    {seq : UInt16} {timeout : Nat} {x : Entry}
    (h : RetransmitQueue.entry? (q.add s seq timeout).1 seq = some x) : x.transmissions = 0 := by
  cases ho : q.offset? seq with
  | none =>
    rw [RetransmitQueue.add_of_offset?_eq_none ho] at h
    simp [RetransmitQueue.entry?, ho] at h
  | some o =>
    rw [RetransmitQueue.add_of_offset? ho, RetransmitQueue.entry?_set ho, if_pos rfl] at h
    cases h
    rfl

namespace Act

/-- A session's RST goes out: one datagram, reading back as an RST that carries ACK with the
session's next number and last delivered number. -/
theorem sendRst_resets (e : Endpoint) :
    ∃ d, (sendRst.run e).2.effects = e.effects ++ [.transmit d] ∧
      Segment.ResetsAt e.session.info.sendNext e.session.info.receiveAcked d ∧
      (sendRst.run e).2.session =
        { e.session with timers := { e.session.timers with idle := false } } := by
  have hb := Header.Built.rst 0 e.session.info.sendNext (some e.session.info.receiveAcked)
  obtain ⟨⟨sealed, d⟩, he⟩ := hb.exists_encode_eq_ok [] rfl
  rw [run_sendRst, run_transmit, he]
  exact ⟨d, rfl, (hb.readsAs rfl he).resetsAt_buildRst, rfl⟩

/-- Leaving `connected` for `disconnecting` reports the new state and empties the queue. -/
theorem enter_disconnecting (e : Endpoint) (hst : e.session.state = .connected) :
    ((enter .disconnecting).run e).2.effects = e.effects ++ [.entered .disconnecting] ∧
      ((enter .disconnecting).run e).2.session.state = .disconnecting ∧
      ∀ q, ((enter .disconnecting).run e).2.session.retransmit = some q →
        ∀ n, q.entry? n = none := by
  rw [run_enter, if_neg (by rw [hst]; nofun), hst, run_leave_connected, run_cancelRetransmissions]
  split
  · refine ⟨rfl, rfl, fun q hq n ↦ ?_⟩
    cases hq
    exact RetransmitQueue.entry?_setBase _ _ _ _
  · rename_i hq₀
    exact ⟨rfl, rfl, fun q hq ↦ absurd (hq₀.symm.trans hq) nofun⟩

end Act

namespace Event

/-- Whether the event delivers a retransmission wake-up of `n`. -/
def firesRetransmission (n : UInt16) : Event → Bool
  | .fire _ (.retransmission m) => m == n
  | _ => false

theorem firesRetransmission_iff {n : UInt16} {ev : Event} :
    ev.firesRetransmission n = true ↔ ∃ hd, ev = .fire hd (.retransmission n) := by
  cases ev with
  | fire hd t => cases t <;> simp [firesRetransmission]
  | connect | wait | close | invalidate | send | receive => simp [firesRetransmission]

theorem ne_fire_of_firesRetransmission {n : UInt16} {ev : Event}
    (h : ev.firesRetransmission n = false) (hd : Handle) : ev ≠ .fire hd (.retransmission n) := by
  rintro rfl
  simp [firesRetransmission] at h

end Event

namespace Endpoint

open Act

variable {e : Endpoint} {n : UInt16}

/-- `n` is in use in the send ring: sent and not yet acknowledged. -/
def Unacked (n : UInt16) (e : Endpoint) : Prop :=
  ∃ r, e.session.sendRing = some r ∧ r.isInUse n = true

/-- No entry for `n` is left. -/
def Dropped (n : UInt16) (e : Endpoint) : Prop :=
  ∀ q, e.session.retransmit = some q → q.entry? n = none

/-- The copy of segment `n`: while `n` is in use its slot holds `d`, and an entry for `n` counts
`c` retransmissions. -/
structure Copy (n : UInt16) (d : Bytes) (c : Nat) (e : Endpoint) : Prop where
  slot : ∀ r, e.session.sendRing = some r → r.isInUse n = true → r.slot n = some d
  count : ∀ q x, e.session.retransmit = some q → q.entry? n = some x → x.transmissions.toNat = c

theorem Dropped.not_entry {x : Entry} (h : e.Dropped n) :
    ¬ ∃ q, e.session.retransmit = some q ∧ q.entry? n = some x := by
  rintro ⟨q, hq, hx⟩
  rw [h q hq] at hx
  cases hx

/-! ### What a step that spares `n` keeps -/

section Spared

variable {S : UInt16 → Prop} {e' : Endpoint} {d : Bytes} {c : Nat}

theorem Copy.spared (h : e.Copy n d c) (hs : Spares S e e') (hf : e.session.SendFit) (hn : S n) :
    e'.Copy n d c where
  slot r' hr' hu := by
    obtain ⟨r, hr, hu₀, hslot⟩ := hs.slot hf n hn r' hr' hu
    rw [hslot]
    exact h.slot r hr hu₀
  count q' x' hq' hx' := by
    obtain ⟨q, hq, x, hx, hcount⟩ := hs.entry hf n hn q' hq' x' hx'
    rw [hcount]
    exact h.count q x hq hx

theorem Dropped.spared (h : e.Dropped n) (hs : Spares S e e') (hf : e.session.SendFit) (hn : S n) :
    e'.Dropped n := by
  intro q' hq'
  cases hx : RetransmitQueue.entry? q' n with
  | none => rfl
  | some x' =>
    obtain ⟨q, hq, x, hx₀, -⟩ := hs.entry hf n hn q' hq' x' hx
    exact absurd ⟨q, hq, hx₀⟩ h.not_entry

theorem not_unacked_of_spares (h : ¬ e.Unacked n) (hs : Spares S e e') (hf : e.session.SendFit)
    (hn : S n) : ¬ e'.Unacked n := by
  rintro ⟨r', hr', hu⟩
  obtain ⟨r, hr, hu₀, -⟩ := hs.slot hf n hn r' hr' hu
  exact h ⟨r, hr, hu₀⟩

end Spared

/-! ### Delivering the retransmission wake-up of `n` -/

/-- The wake-up left `n` alone: nothing was sent, the send ring is as it was, and an entry for
`n` afterwards was there before. -/
structure FiresQuietly (n : UInt16) (e e' : Endpoint) : Prop where
  effects : e'.effects = []
  ring : e'.session.sendRing = e.session.sendRing
  entry : ∀ q' x, e'.session.retransmit = some q' → RetransmitQueue.entry? q' n = some x →
    ∃ q, e.session.retransmit = some q ∧ q.entry? n = some x

/-- The wake-up resent `n`: its entry `x` had retries left and its slot in `ring` was in use; the
bytes of the slot went out, and the entry counts one more transmission. -/
structure Resends (n : UInt16) (ring : SegmentBuffer) (x : Entry) (e e' : Endpoint) : Prop where
  kept : e.session.sendRing = some ring ∧ e'.session.sendRing = some ring
  inUse : ring.isInUse n = true
  entry : ∃ q, e.session.retransmit = some q ∧ q.entry? n = some x
  below : x.transmissions < e.session.info.config.maxRetransmissions
  effects : e'.effects = [.transmit ((ring.slot n).getD [])]
  counted : ∃ q' x', e'.session.retransmit = some q' ∧ RetransmitQueue.entry? q' n = some x' ∧
    x'.transmissions = x.transmissions + 1

/-- The wake-up gave the connection up: `n` was in use and its entry `x` out of retries; one RST
carrying ACK went out, the session entered `disconnecting`, and no entry for `n` is left. -/
structure GivesUp (n : UInt16) (x : Entry) (e e' : Endpoint) : Prop where
  unacked : e.Unacked n
  entry : ∃ q, e.session.retransmit = some q ∧ q.entry? n = some x
  spent : ¬ x.transmissions < e.session.info.config.maxRetransmissions
  effects : ∃ r, e'.effects = [.transmit r, .entered .disconnecting] ∧
    Segment.ResetsAt e.session.info.sendNext e.session.info.receiveAcked r
  state : e'.session.state = .disconnecting
  dropped : e'.Dropped n

/-- The wake-up of `n` reaches the session only while it is connected; it is then handed to the
queue, and a segment still in use that has run out of retries ends the connection. -/
theorem handle_fire_retransmission (e : Endpoint) (hd : Handle) (n : UInt16) :
    e.handle (.fire hd (.retransmission n)) =
      if e.session.state = .connected then
        let r := (retransmitFired n hd).run
          { e with schedule := e.schedule.deliver hd (.retransmission n), effects := [] }
        if r.1 then r.2 else ((enter .disconnecting).run (sendRst.run r.2).2).2
      else { e with schedule := e.schedule.deliver hd (.retransmission n), effects := [] } := by
  have hprep : e.prepare (.fire hd (.retransmission n)) =
      { e with schedule := e.schedule.deliver hd (.retransmission n), effects := [] } := rfl
  unfold handle Event.act timerFired
  rw [run_bind, run_session, session_prepare, hprep]
  cases hst : e.session.state <;> simp only [reduceCtorEq, ↓reduceIte, run_pure]
  rw [run_bind]
  cases ((retransmitFired n hd).run
    { e with schedule := e.schedule.deliver hd (.retransmission n), effects := [] }).1 <;> rfl

section Firing

variable (hd : Handle) (n : UInt16)

theorem firesQuietly_of_not_connected (hst : e.session.state ≠ .connected) :
    FiresQuietly n e (e.handle (.fire hd (.retransmission n))) := by
  rw [handle_fire_retransmission, if_neg hst]
  exact ⟨rfl, rfl, fun q x hq hx ↦ ⟨q, hq, hx⟩⟩

theorem firesQuietly_of_none (hst : e.session.state = .connected)
    (h : e.session.sendRing = none ∨ e.session.retransmit = none) :
    FiresQuietly n e (e.handle (.fire hd (.retransmission n))) := by
  rw [handle_fire_retransmission, if_pos hst]
  dsimp only
  rw [run_retransmitFired_of_none
    { e with schedule := e.schedule.deliver hd (.retransmission n), effects := [] } h]
  exact ⟨rfl, rfl, fun q x hq hx ↦ ⟨q, hq, hx⟩⟩

section Windows

variable {ring : SegmentBuffer} {queue : RetransmitQueue} (hst : e.session.state = .connected)
  (hr : e.session.sendRing = some ring) (hq : e.session.retransmit = some queue)
include hst hr hq

/-- The delivery, read off what the queue makes of the wake-up: a resend transmits the slot, a
stale wake-up changes nothing, and an entry that may not be resent is dropped, ending the
connection when its slot is still in use. -/
theorem handle_fire_eq {o : FireOutcome} {queue' : RetransmitQueue} {sc : Schedule}
    (hfire : queue.fire (e.schedule.deliver hd (.retransmission n)) n hd
      (fun y ↦ decide (y.transmissions < e.session.info.config.maxRetransmissions) && ring.isInUse n) =
        (o, queue', sc)) :
    let e₁ : Endpoint := { e with
      schedule := sc, effects := [], session := { e.session with retransmit := some queue' } }
    e.handle (.fire hd (.retransmission n)) =
      match o with
      | .rescheduled => { e₁ with
          effects := [.transmit ((ring.slot n).getD [])]
          session := { e₁.session with timers := { e₁.session.timers with idle := false } } }
      | .stale => e₁
      | .exhausted =>
        if ring.isInUse n then ((enter .disconnecting).run (sendRst.run e₁).2).2 else e₁ := by
  intro e₁
  rw [handle_fire_retransmission, if_pos hst]
  dsimp only
  rw [run_retransmitFired { e with schedule := e.schedule.deliver hd (.retransmission n), effects := [] }
    hr hq n hd]
  dsimp only
  simp only [hfire]
  cases o with
  | rescheduled | stale => rfl
  | exhausted =>
    dsimp only
    cases ring.isInUse n <;> rfl

/-- A wake-up that no entry of `n` holds is stale. -/
theorem firesQuietly_of_stale (hx : queue.due? n hd = none) :
    FiresQuietly n e (e.handle (.fire hd (.retransmission n))) := by
  rw [handle_fire_eq hd n hst hr hq (RetransmitQueue.fire_of_due?_eq_none _ _ _ _ _ hx)]
  exact ⟨rfl, rfl, fun q x hq' hx' ↦ ⟨q, by rw [hq]; exact hq', hx'⟩⟩

/-- A due entry with retries left whose slot is in use is resent. -/
theorem resends_of_due {x : Entry} (hx : queue.due? n hd = some x)
    (hbelow : x.transmissions < e.session.info.config.maxRetransmissions) (hu : ring.isInUse n = true) :
    Resends n ring x e (e.handle (.fire hd (.retransmission n))) := by
  obtain ⟨o, ho, hfire⟩ := RetransmitQueue.fire_of_due? hx
    (e.schedule.deliver hd (.retransmission n))
    fun y ↦ decide (y.transmissions < e.session.info.config.maxRetransmissions) && ring.isInUse n
  rw [if_pos (by simp [hbelow, hu])] at hfire
  rw [handle_fire_eq hd n hst hr hq hfire]
  refine ⟨⟨hr, hr⟩, hu, ⟨queue, hq, (RetransmitQueue.due?_eq_some_iff.1 hx).1⟩, hbelow, rfl,
    _, _, rfl, by rw [RetransmitQueue.entry?_set ho, if_pos rfl], ?_⟩
  rw [if_neg (UInt8.ne_max_of_lt hbelow)]

/-- A due entry whose slot is released is dropped, and nothing is sent. -/
theorem firesQuietly_of_released {x : Entry} (hx : queue.due? n hd = some x)
    (hu : ring.isInUse n = false) :
    FiresQuietly n e (e.handle (.fire hd (.retransmission n))) := by
  obtain ⟨o, ho, hfire⟩ := RetransmitQueue.fire_of_due? hx
    (e.schedule.deliver hd (.retransmission n))
    fun y ↦ decide (y.transmissions < e.session.info.config.maxRetransmissions) && ring.isInUse n
  rw [if_neg (by simp [hu])] at hfire
  rw [handle_fire_eq hd n hst hr hq hfire]
  dsimp only
  rw [if_neg (by simp [hu])]
  refine ⟨rfl, rfl, fun q' x' hq' hx' ↦ ?_⟩
  cases hq'
  rw [RetransmitQueue.entry?_set ho, if_pos rfl] at hx'
  cases hx'

/-- A due entry out of retries whose slot is still in use ends the connection. -/
theorem givesUp_of_due {x : Entry} (hx : queue.due? n hd = some x)
    (hspent : ¬ x.transmissions < e.session.info.config.maxRetransmissions)
    (hu : ring.isInUse n = true) : GivesUp n x e (e.handle (.fire hd (.retransmission n))) := by
  obtain ⟨o, ho, hfire⟩ := RetransmitQueue.fire_of_due? hx
    (e.schedule.deliver hd (.retransmission n))
    fun y ↦ decide (y.transmissions < e.session.info.config.maxRetransmissions) && ring.isInUse n
  rw [if_neg (by simp [hspent])] at hfire
  rw [handle_fire_eq hd n hst hr hq hfire]
  dsimp only
  rw [if_pos hu]
  -- the RST goes out from the session as the queue left it, still connected
  generalize hmid : ({ e with
      schedule := e.schedule.deliver hd (.retransmission n), effects := []
      session := { e.session with retransmit := some { queue with
        entries := queue.entries.set o none, inUse := queue.inUse - 1 } } } : Endpoint) = e₁
  obtain ⟨r, hrst, hreads, hsession⟩ := sendRst_resets e₁
  have hst₁ : (sendRst.run e₁).2.session.state = .connected := by
    rw [hsession, ← hmid]
    exact hst
  obtain ⟨heff, hstate, hdrop⟩ := enter_disconnecting _ hst₁
  refine ⟨⟨ring, hr, hu⟩, ⟨queue, hq, (RetransmitQueue.due?_eq_some_iff.1 hx).1⟩, hspent,
    ⟨r, ?_, ?_⟩, hstate, fun q hq' ↦ hdrop q hq' n⟩
  · rw [heff, hrst, ← hmid]
    rfl
  · rw [← hmid] at hreads
    exact hreads

end Windows

/-- **What delivering the wake-up of `n` does.** It leaves `n` alone but for dropping its entry,
or resends the bytes of its slot, or gives the connection up. -/
theorem fire_cases (e : Endpoint) :
    FiresQuietly n e (e.handle (.fire hd (.retransmission n))) ∨
      (∃ ring x, Resends n ring x e (e.handle (.fire hd (.retransmission n)))) ∨
      ∃ x, GivesUp n x e (e.handle (.fire hd (.retransmission n))) := by
  by_cases hst : e.session.state = .connected
  swap
  · exact .inl (firesQuietly_of_not_connected hd n hst)
  cases hr : e.session.sendRing with
  | none => exact .inl (firesQuietly_of_none hd n hst (.inl hr))
  | some ring =>
  cases hq : e.session.retransmit with
  | none => exact .inl (firesQuietly_of_none hd n hst (.inr hq))
  | some queue =>
  cases hx : queue.due? n hd with
  | none => exact .inl (firesQuietly_of_stale hd n hst hr hq hx)
  | some x =>
  -- a due entry: resent with retries left and its slot in use, given up when in use without
  cases hu : ring.isInUse n with
  | false => exact .inl (firesQuietly_of_released hd n hst hr hq hx hu)
  | true =>
    by_cases hbelow : x.transmissions < e.session.info.config.maxRetransmissions
    · exact .inr (.inl ⟨ring, x, resends_of_due hd n hst hr hq hx hbelow hu⟩)
    · exact .inr (.inr ⟨x, givesUp_of_due hd n hst hr hq hx hbelow hu⟩)

end Firing

/-! ### Each stage under one event -/

section Stages

variable {e' : Endpoint} {d : Bytes} {c : Nat} {ring : SegmentBuffer} {x : Entry}

theorem Copy.firesQuietly (h : e.Copy n d c) (hq : FiresQuietly n e e') : e'.Copy n d c where
  slot r hr hu := h.slot r (hq.ring.symm.trans hr) hu
  count q x hq' hx := by
    obtain ⟨q₀, hq₀, hx₀⟩ := hq.entry q x hq' hx
    exact h.count q₀ x hq₀ hx₀

theorem Dropped.firesQuietly (h : e.Dropped n) (hq : FiresQuietly n e e') : e'.Dropped n := by
  intro q hq'
  cases hx : RetransmitQueue.entry? q n with
  | none => rfl
  | some x => exact absurd (hq.entry q x hq' hx) h.not_entry

theorem not_unacked_of_firesQuietly (h : ¬ e.Unacked n) (hq : FiresQuietly n e e') :
    ¬ e'.Unacked n := by
  rintro ⟨r, hr, hu⟩
  exact h ⟨r, hq.ring.symm.trans hr, hu⟩

/-- Resending from a copy sends `d` once more, and the entry counts it. -/
theorem Resends.copy (hr : Resends n ring x e e') (h : e.Copy n d c) :
    x.transmissions.toNat = c ∧ e'.effects = [.transmit d] ∧ e'.Copy n d (c + 1) := by
  obtain ⟨q, hq, hx⟩ := hr.entry
  have hc := h.count q x hq hx
  have hslot := h.slot ring hr.kept.1 hr.inUse
  refine ⟨hc, by rw [hr.effects, hslot, Option.getD_some], fun r' hr' _ ↦ ?_, fun q' x' hq' hx' ↦ ?_⟩
  · cases hr.kept.2.symm.trans hr'
    exact hslot
  · obtain ⟨q'', x'', hq'', hx'', hcount⟩ := hr.counted
    cases hq''.symm.trans hq'
    cases hx''.symm.trans hx'
    rw [hcount, UInt8.toNat_add_one_of_lt hr.below, hc]

/-- Giving up from a copy of at most the limit happens only once the limit is reached. -/
theorem GivesUp.count_eq_limit (hg : GivesUp n x e e') (h : e.Copy n d c)
    (hc : c ≤ e.session.info.config.maxRetransmissions.toNat) :
    c = e.session.info.config.maxRetransmissions.toNat := by
  obtain ⟨q, hq, hx⟩ := hg.entry
  have hcount := h.count q x hq hx
  have hspent := hg.spent
  rw [UInt8.lt_iff_toNat_lt, hcount] at hspent
  omega

end Stages

/-! ### Runs that accept nothing under `n` -/

/-- The datagrams an event transmits when it delivers a retransmission wake-up of `n`. -/
def resentOn (e : Endpoint) (n : UInt16) (ev : Event) : List Bytes :=
  if ev.firesRetransmission n then Peer.transmissions (e.handle ev).effects else []

/-- The datagrams a run transmits on deliveries of retransmission wake-ups of `n`. -/
def resentAlong : Endpoint → UInt16 → List Event → List Bytes
  | _, _, [] => []
  | e, n, ev :: evs => e.resentOn n ev ++ (e.handle ev).resentAlong n evs

/-- No event of the run accepts a payload under `n`. -/
def AcceptsNone : Endpoint → UInt16 → List Event → Prop
  | _, _, [] => True
  | e, n, ev :: evs => Effect.accepted n ∉ (e.handle ev).effects ∧ (e.handle ev).AcceptsNone n evs

theorem acceptsNone_append {pre post : List Event} :
    e.AcceptsNone n (pre ++ post) ↔
      e.AcceptsNone n pre ∧ (pre.foldl Endpoint.handle e).AcceptsNone n post := by
  induction pre generalizing e with
  | nil => simp [AcceptsNone]
  | cons ev pre ih => simp only [List.cons_append, AcceptsNone, ih, List.foldl_cons, and_assoc]

theorem Reachable.foldl (h : e.Reachable) (evs : List Event) :
    (evs.foldl Endpoint.handle e).Reachable := by
  induction evs generalizing e with
  | nil => exact h
  | cons ev evs ih => exact ih (h.handle ev)

/-- Where the copies of `n` stand once `sent` went out on its wake-ups, under the retry limit
`m`: at most `m` copies of `d` went out and the copy of `n` counts them; or all `m` went out,
then one RST, and no entry for `n` is left. -/
structure Trail (n : UInt16) (d : Bytes) (m : UInt8) (e : Endpoint) (sent : List Bytes) : Prop where
  limit : e.session.info.config.maxRetransmissions = m
  stage : (∃ c ≤ m.toNat, e.Copy n d c ∧ sent = List.replicate c d) ∨
    e.Dropped n ∧ ∃ r, Segment.Resets r ∧ sent = List.replicate m.toNat d ++ [r]

section Trail

variable {e' : Endpoint} {d : Bytes} {m : UInt8} {sent : List Bytes} {ring : SegmentBuffer} {x : Entry}

theorem Trail.firesQuietly (ht : e.Trail n d m sent) (hq : FiresQuietly n e e')
    (hlimit : e'.session.info.config.maxRetransmissions = m) :
    e'.Trail n d m (sent ++ Peer.transmissions e'.effects) := by
  rw [hq.effects, Peer.transmissions_nil, List.append_nil]
  exact ⟨hlimit, ht.stage.imp (fun ⟨c, hc, hcopy, hs⟩ ↦ ⟨c, hc, hcopy.firesQuietly hq, hs⟩)
    fun ⟨hdrop, hr⟩ ↦ ⟨hdrop.firesQuietly hq, hr⟩⟩

theorem Trail.resends (ht : e.Trail n d m sent) (hr : Resends n ring x e e')
    (hlimit : e'.session.info.config.maxRetransmissions = m) :
    e'.Trail n d m (sent ++ Peer.transmissions e'.effects) := by
  rcases ht.stage with ⟨c, -, hcopy, rfl⟩ | ⟨hdrop, -⟩
  · obtain ⟨hcount, heff, hcopy'⟩ := hr.copy hcopy
    have hbelow := UInt8.lt_iff_toNat_lt.1 hr.below
    rw [ht.limit, hcount] at hbelow
    refine ⟨hlimit, .inl ⟨c + 1, hbelow, hcopy', ?_⟩⟩
    rw [heff, Peer.transmissions_transmit, List.replicate_succ']
  · exact absurd hr.entry hdrop.not_entry

theorem Trail.givesUp (ht : e.Trail n d m sent) (hg : GivesUp n x e e')
    (hlimit : e'.session.info.config.maxRetransmissions = m) :
    e'.Trail n d m (sent ++ Peer.transmissions e'.effects) := by
  rcases ht.stage with ⟨c, hc, hcopy, rfl⟩ | ⟨hdrop, -⟩
  · obtain ⟨r, heff, hrst⟩ := hg.effects
    have hspent := hg.count_eq_limit hcopy (by rw [ht.limit]; exact hc)
    refine ⟨hlimit, .inr ⟨hg.dropped, r, hrst.resets, ?_⟩⟩
    rw [heff, hspent, ht.limit]
    rfl
  · exact absurd hg.entry hdrop.not_entry

end Trail

/-- **Step lemma for the trail.** An event that accepts nothing under `n` keeps the trail of
`n`, with what it sends on the wake-up of `n` added. -/
theorem Reachable.trail_handle {d : Bytes} {m : UInt8} {sent : List Bytes} (h : e.Reachable)
    (ht : e.Trail n d m sent) (ev : Event) (ha : Effect.accepted n ∉ (e.handle ev).effects) :
    (e.handle ev).Trail n d m (sent ++ e.resentOn n ev) := by
  have hs := h.spares_handle ev
  have hlimit : (e.handle ev).session.info.config.maxRetransmissions = m := by
    rw [hs.config, ht.limit]
  cases hw : ev.firesRetransmission n with
  | false =>
    -- an event that spares `n` keeps each stage and sends nothing for it
    have hn := And.intro ha (Event.ne_fire_of_firesRetransmission hw)
    rw [resentOn, hw, if_neg Bool.false_ne_true, List.append_nil]
    exact ⟨hlimit, ht.stage.imp (fun ⟨c, hc, hcopy, hs'⟩ ↦ ⟨c, hc, hcopy.spared hs h.sendFit hn, hs'⟩)
      fun ⟨hdrop, hr⟩ ↦ ⟨hdrop.spared hs h.sendFit hn, hr⟩⟩
  | true =>
    obtain ⟨hd, rfl⟩ := Event.firesRetransmission_iff.1 hw
    rw [resentOn, hw, if_pos rfl]
    rcases fire_cases hd n e with hq | ⟨ring, x, hr⟩ | ⟨x, hg⟩
    · exact ht.firesQuietly hq hlimit
    · exact ht.resends hr hlimit
    · exact ht.givesUp hg hlimit

/-- **Run lemma for the trail.** -/
theorem Reachable.trail_foldl {d : Bytes} {m : UInt8} {sent : List Bytes} (h : e.Reachable)
    (ht : e.Trail n d m sent) (evs : List Event) (ha : e.AcceptsNone n evs) :
    (evs.foldl Endpoint.handle e).Trail n d m (sent ++ e.resentAlong n evs) := by
  induction evs generalizing e sent with
  | nil =>
    rw [List.foldl_nil, resentAlong, List.append_nil]
    exact ht
  | cons ev evs ih =>
    obtain ⟨ha₁, ha⟩ := ha
    rw [List.foldl_cons, resentAlong, ← List.append_assoc]
    exact ih (h.handle ev) (h.trail_handle ht ev ha₁) ha

/-- A released number stays released, and its wake-ups send nothing. -/
theorem Reachable.released_handle (h : e.Reachable) (hu : ¬ e.Unacked n) (ev : Event)
    (ha : Effect.accepted n ∉ (e.handle ev).effects) :
    e.resentOn n ev = [] ∧ ¬ (e.handle ev).Unacked n := by
  cases hw : ev.firesRetransmission n with
  | false =>
    refine ⟨by rw [resentOn, hw, if_neg Bool.false_ne_true], ?_⟩
    exact not_unacked_of_spares hu (h.spares_handle ev) h.sendFit
      ⟨ha, Event.ne_fire_of_firesRetransmission hw⟩
  | true =>
    obtain ⟨hd, rfl⟩ := Event.firesRetransmission_iff.1 hw
    rcases fire_cases hd n e with hq | ⟨ring, x, hr⟩ | ⟨x, hg⟩
    · refine ⟨?_, not_unacked_of_firesQuietly hu hq⟩
      rw [resentOn, hw, if_pos rfl, hq.effects]
      rfl
    · exact absurd ⟨ring, hr.kept.1, hr.inUse⟩ hu
    · exact absurd hg.unacked hu

theorem Reachable.resentAlong_of_released (h : e.Reachable) (hu : ¬ e.Unacked n)
    (evs : List Event) (ha : e.AcceptsNone n evs) : e.resentAlong n evs = [] := by
  induction evs generalizing e with
  | nil => rfl
  | cons ev evs ih =>
    obtain ⟨ha₁, ha⟩ := ha
    obtain ⟨h₁, hu₁⟩ := h.released_handle hu ev ha₁
    rw [resentAlong, h₁, ih (h.handle ev) hu₁ ha, List.append_nil]

/-! ### Giving up -/

/-- The connection is given up: one RST carrying ACK, numbered with the session's next number and
acknowledging its last delivered one, then `disconnecting` with only its end pending. -/
structure HangsUp (e e' : Endpoint) : Prop where
  rst : ∃ r, e'.effects = [.transmit r, .entered .disconnecting] ∧
    Segment.ResetsAt e.session.info.sendNext e.session.info.receiveAcked r
  state : e'.session.state = .disconnecting
  pending : ∃ a, e'.schedule.pending = [a] ∧ a.timer = .disconnect

theorem GivesUp.hangsUp {e' : Endpoint} {x : Entry} (hg : GivesUp n x e e') (h' : e'.Reachable) :
    HangsUp e e' := by
  have hfit := h'.owns_wakeups.by_state
  simp only [Session.PendingFits, hg.state] at hfit
  exact ⟨hg.effects, hg.state, hfit⟩

/-- Only a connected session has a retransmission wake-up pending. -/
theorem Reachable.connected_of_has {hd : Handle} (h : e.Reachable)
    (hp : e.schedule.Has hd (.retransmission n)) : e.session.state = .connected := by
  obtain ⟨a, ha, -, ht⟩ := hp
  have hfit := h.owns_wakeups.by_state
  cases hst : e.session.state with
  | connected => rfl
  | closed | waiting =>
    simp only [Session.PendingFits, hst] at hfit
    rw [hfit.1] at ha
    cases ha
  | initiating | connecting | disconnecting =>
    simp only [Session.PendingFits, hst] at hfit
    obtain ⟨a', hpa, ht'⟩ := hfit
    rw [hpa, List.mem_singleton] at ha
    rw [← ha, ht] at ht'
    cases ht'

/-- Delivering the pending wake-up of `n`, still unacknowledged, once `m` copies went out gives
the connection up. -/
theorem Reachable.hangsUp_of_trail {d : Bytes} {m : UInt8} {sent : List Bytes} {hd : Handle}
    (h : e.Reachable) (ht : e.Trail n d m sent) (hlen : sent.length = m.toNat)
    (hp : e.schedule.Has hd (.retransmission n)) (hu : e.Unacked n) :
    HangsUp e (e.handle (.fire hd (.retransmission n))) := by
  have hst := h.connected_of_has hp
  -- the pending wake-up is the one the entry of `n` records
  have hheld := (h.owns_wakeups.pending_iff hd (.retransmission n)).1 hp
  simp only [Session.held, Timers.held, Session.retransmissions] at hheld
  obtain ⟨queue, hq, hh⟩ := Option.bind_eq_some_iff.1 hheld
  obtain ⟨x, hx, hentry⟩ := RetransmitQueue.exists_due?_of_handles hh
  obtain ⟨ring, hr, hin⟩ := hu
  rcases ht.stage with ⟨c, -, hcopy, rfl⟩ | ⟨-, r, -, rfl⟩
  · -- exactly `m` copies went out, so the entry of `n` is out of retries
    rw [List.length_replicate] at hlen
    have hspent : ¬ x.transmissions < e.session.info.config.maxRetransmissions := by
      rw [UInt8.lt_iff_toNat_lt, hcopy.count queue x hq hentry, ht.limit, hlen]
      exact Nat.lt_irrefl _
    exact (givesUp_of_due hd n hst hr hq hx hspent hin).hangsUp (h.handle _)
  · simp at hlen

/-! ### The segment an accepted payload leaves -/

/-- An admitted payload goes out as one datagram, which the slot of its number now holds; its
entry counts no retransmission yet. -/
theorem Reachable.copy_send {p : Bytes} (h : e.Reachable) (hadm : e.session.Admits p) :
    ∃ d, (e.handle (.send p)).effects = [.transmit d, .accepted e.session.info.sendNext] ∧
      Segment.CarriesData e.session.info.sendNext e.session.info.receiveAcked p d ∧
      (e.handle (.send p)).Copy e.session.info.sendNext d 0 ∧
      (e.handle (.send p)).session.info.config = e.session.info.config := by
  have hst := Session.state_of_canSend hadm.1
  obtain ⟨r, send, queue, recv, hr, hs, hq, -, hw⟩ := h.invariant.windowed hst
  have hrun : e.handle (.send p) = ((sendData p).run (e.prepare (.send p))).2 := by
    simp only [Endpoint.handle, Event.act, run_bind, run_pure]
    rw [run_send_of_connected _ (by rw [session_prepare]; exact hst)]
  rcases run_sendData (e.prepare (.send p)) p with
    ⟨err, hrun'⟩ | ⟨r', ring, queue', hdr, bytes, -, hs', hq', hne, -, -, he, hrun'⟩
  · -- an admitted payload is not refused
    have hok := (run_sendData_accepted (e.prepare (.send p)) hr hs hq hw
      (by rw [session_prepare]; exact hadm)).1
    rw [hrun'] at hok
    cases hok
  cases hs.symm.trans hs'
  cases hq.symm.trans hq'
  obtain ⟨hc, r₀, hr₀, hp1, hl⟩ := hadm
  cases hr.symm.trans hr₀
  -- the datagram fits the slot, whose size covers the peer's segment size
  have hfit := h.sendFit
  have hlen := Header.length_encode_data he
  have hroom := hfit.room send r hs hr
  have hslot : send.hasSlot e.session.info.sendNext = true := by
    simp only [Session.canSend, Bool.and_eq_true, hs, Option.map_some, Option.getD_some] at hc
    exact hc.2
  refine ⟨bytes, by rw [hrun, hrun']; rfl, Header.carriesData_encode hne (by
    have := r.maxSegmentSize.toNat_lt
    omega) he, ?_, by rw [hrun, hrun']; rfl⟩
  rw [hrun, hrun']
  refine ⟨fun r' hr' _ ↦ ?_, fun q' x hq'' hx ↦ ?_⟩
  · cases hr'
    rw [session_prepare, SegmentBuffer.WellFormed.slot_store_self (hfit.wf send hs) hslot,
      List.take_of_length_le (by omega)]
  · cases hq''
    rw [RetransmitQueue.transmissions_of_entry?_add hx]
    rfl

/-! ### Retransmission is faithful and bounded -/

/-- How the session `e` retransmits the segment `n` it sent as `d`, under the retry limit
`limit`, along runs that accept no other payload under `n`. -/
structure Retransmits (e : Endpoint) (n : UInt16) (d : Bytes) (limit : Nat) : Prop where
  /-- The wake-ups of `n` send at most `limit` copies of `d`, then at most one RST, and that only
  after all `limit` copies. -/
  copies : ∀ evs, e.AcceptsNone n evs → ∃ k ≤ limit, e.resentAlong n evs = List.replicate k d ∨
    k = limit ∧ ∃ r, Segment.Resets r ∧ e.resentAlong n evs = List.replicate k d ++ [r]
  /-- Once `n` is released, its wake-ups send nothing. -/
  released : ∀ pre post, e.AcceptsNone n (pre ++ post) →
    ¬ (pre.foldl Endpoint.handle e).Unacked n → (pre.foldl Endpoint.handle e).resentAlong n post = []
  /-- Delivering the pending wake-up of `n`, still unacknowledged, after `limit` retransmissions
  gives the connection up. -/
  exhausted : ∀ pre hd, e.AcceptsNone n pre →
    (pre.foldl Endpoint.handle e).schedule.Has hd (.retransmission n) →
    (pre.foldl Endpoint.handle e).Unacked n → (e.resentAlong n pre).length = limit →
    HangsUp (pre.foldl Endpoint.handle e)
      ((pre.foldl Endpoint.handle e).handle (.fire hd (.retransmission n)))

/-- **Retransmission is faithful and bounded.** When a reachable session accepts a payload, one
datagram `d` carrying it goes out under the number `sendNext`, and from then on the session
retransmits that number as `Retransmits` says, under its own retry limit. -/
theorem Reachable.retransmission_faithful {p : Bytes} (h : e.Reachable)
    (hok : ((Act.send p).run e).1 = .ok ()) :
    ∃ d, (e.handle (.send p)).effects = [.transmit d, .accepted e.session.info.sendNext] ∧
      Segment.CarriesData e.session.info.sendNext e.session.info.receiveAcked p d ∧
      (e.handle (.send p)).Retransmits e.session.info.sendNext d
        e.session.info.config.maxRetransmissions.toNat := by
  have hadm : e.session.Admits p := by
    by_contra hadm
    rw [h.run_send_of_not_admits p hadm] at hok
    cases hok
  obtain ⟨d, heff, hcarry, hcopy, hcfg⟩ := h.copy_send hadm
  have h₁ := h.handle (.send p)
  -- the trail starts with the copy just stored and nothing resent
  have ht : (e.handle (.send p)).Trail e.session.info.sendNext d
      e.session.info.config.maxRetransmissions [] :=
    ⟨by rw [hcfg], .inl ⟨0, Nat.zero_le _, hcopy, rfl⟩⟩
  refine ⟨d, heff, hcarry, fun evs ha ↦ ?_, fun pre post ha hu ↦ ?_, fun pre hd ha hp hu hlen ↦ ?_⟩
  · rcases (h₁.trail_foldl ht evs ha).stage with ⟨c, hc, -, hs⟩ | ⟨-, r, hr, hs⟩
    · exact ⟨c, hc, .inl hs⟩
    · exact ⟨_, le_rfl, .inr ⟨rfl, r, hr, hs⟩⟩
  · exact (h₁.foldl pre).resentAlong_of_released hu post (acceptsNone_append.1 ha).2
  · exact (h₁.foldl pre).hangsUp_of_trail (h₁.trail_foldl ht pre ha) hlen hp hu

/-- The connected endpoint reached by completing a handshake accepts a payload of three bytes and
retransmits it faithfully. -/
theorem synAcked_retransmits_faithfully : synAcked.Reachable ∧
    ((Act.send [1, 2, 3]).run synAcked).1 = .ok () ∧
    ∃ d, (synAcked.handle (.send [1, 2, 3])).effects =
        [.transmit d, .accepted synAcked.session.info.sendNext] ∧
      Segment.CarriesData synAcked.session.info.sendNext synAcked.session.info.receiveAcked
        [1, 2, 3] d ∧
      (synAcked.handle (.send [1, 2, 3])).Retransmits synAcked.session.info.sendNext d
        synAcked.session.info.config.maxRetransmissions.toNat :=
  ⟨synAcked_reachable, by decide, Reachable.retransmission_faithful synAcked_reachable (by decide)⟩

end Endpoint

end ReliableDatagram
