import ReliableDatagram.Proofs.PeerSize
import ReliableDatagram.Proofs.SendingHalf
/-!
# What an event leaves of an outstanding segment

A segment sent and not yet acknowledged lives in two places: its bytes in a slot of the send
ring, and its retransmission entry, with the count of its retransmissions, in the queue. Only
two actions write either for a given number: accepting a payload stores the segment and adds
its entry, and delivering its retransmission wake-up counts one more transmission. Every other
action moves, releases or drops them, and never rewrites them.

`Endpoint.Spares S e e'` says this of the numbers with property `S`: a number that is in use in
the send ring after the action was in use before, with the same bytes, and an entry after the
action was there before, with the same count. Every action spares every number, except that
`sendData` spares all but the number it sends and `retransmitFired` all but the number it
fires; so an event spares each number it neither accepts nor fires
(`Endpoint.spares_handle`).

On the way each action keeps the send side fit (`Session.SendFit`): the send ring is well
formed, its slots take a whole segment of the peer's size, and the queue is small enough to be
indexed by offset. Taking the peer's configuration is the one action that needs a fact from
outside: it happens only while the session holds no send ring.
-/

namespace ReliableDatagram

namespace Session

/-- The send side is fit to resend what it holds: the send ring is well formed, each of its
slots takes a whole segment of the peer's size, and the retransmission queue is small enough
to be indexed by offset. -/
structure SendFit (s : Session) : Prop where
  wf : ∀ ring, s.sendRing = some ring → ring.WellFormed
  room : ∀ ring r, s.sendRing = some ring → s.info.remote = some r →
    r.maxSegmentSize.toNat ≤ ring.slotSize
  small : ∀ q, s.retransmit = some q → q.capacity < 256

end Session

namespace RetransmitQueue

variable {q : RetransmitQueue} {s : Schedule} {seq n : UInt16}

/-- Adding an entry for `seq` leaves the entries of other numbers. -/
theorem entry?_add_of_ne (hn : n ≠ seq) (timeout : Nat) :
    RetransmitQueue.entry? (q.add s seq timeout).1 n = q.entry? n := by
  cases ho : q.offset? seq with
  | none => rw [add_of_offset?_eq_none ho]
  | some o => rw [add_of_offset? ho, entry?_set ho, if_neg hn]

/-- Removing an entry leaves only entries that were there. -/
theorem entry?_remove_eq_some {x : Entry} (h : RetransmitQueue.entry? (q.remove s seq).1 n = some x) :
    q.entry? n = some x := by
  cases ho : q.offset? seq with
  | none => rwa [remove_of_offset?_eq_none ho] at h
  | some o =>
    rw [remove_of_offset? ho, entry?_set ho] at h
    split at h
    · cases h
    · exact h

/-- Delivering the wake-up of `seq` leaves the entries of other numbers. -/
theorem entry?_fire_of_ne (hn : n ≠ seq) (h : Handle) (resend : Entry → Bool) :
    RetransmitQueue.entry? (q.fire s seq h resend).2.1 n = q.entry? n := by
  cases hd : q.due? seq h with
  | none => rw [fire_of_due?_eq_none q s seq h resend hd]
  | some x =>
    obtain ⟨o, ho, hfire⟩ := fire_of_due? hd s resend
    rw [hfire]
    split
    · rw [entry?_set ho, if_neg hn]
    · rw [entry?_set ho, if_neg hn]

end RetransmitQueue

namespace Endpoint

/-- How an action moves the send side, sparing the numbers with property `S`: it keeps the
configuration and keeps the send side fit; a spared number in use in the send ring afterwards was in use before, with the same
bytes; and an entry for a spared number afterwards was there before, with the same count. -/
structure Spares (S : UInt16 → Prop) (e e' : Endpoint) : Prop where
  config : e'.session.info.config = e.session.info.config
  fit : e.session.SendFit → e'.session.SendFit
  slot : e.session.SendFit → ∀ n, S n → ∀ r', e'.session.sendRing = some r' → r'.isInUse n = true →
    ∃ r, e.session.sendRing = some r ∧ r.isInUse n = true ∧ r'.slot n = r.slot n
  entry : e.session.SendFit → ∀ n, S n → ∀ q', e'.session.retransmit = some q' → ∀ x',
    RetransmitQueue.entry? q' n = some x' →
      ∃ q, e.session.retransmit = some q ∧ ∃ x, q.entry? n = some x ∧ x'.transmissions = x.transmissions

variable {S : UInt16 → Prop} {e₁ e₂ e₃ : Endpoint}

namespace Spares

theorem refl (e : Endpoint) : Spares S e e where
  config := rfl
  fit h := h
  slot _ _ _ r' hr hu := ⟨r', hr, hu, rfl⟩
  entry _ _ _ q' hq x' hx := ⟨q', hq, x', hx, rfl⟩

theorem trans (h₁ : Spares S e₁ e₂) (h₂ : Spares S e₂ e₃) : Spares S e₁ e₃ where
  config := h₂.config.trans h₁.config
  fit h := h₂.fit (h₁.fit h)
  slot hf n hn r₃ hr₃ hu₃ := by
    obtain ⟨r₂, hr₂, hu₂, hs₂⟩ := h₂.slot (h₁.fit hf) n hn r₃ hr₃ hu₃
    obtain ⟨r₁, hr₁, hu₁, hs₁⟩ := h₁.slot hf n hn r₂ hr₂ hu₂
    exact ⟨r₁, hr₁, hu₁, hs₂.trans hs₁⟩
  entry hf n hn q₃ hq₃ x₃ hx₃ := by
    obtain ⟨q₂, hq₂, x₂, hx₂, hc₂⟩ := h₂.entry (h₁.fit hf) n hn q₃ hq₃ x₃ hx₃
    obtain ⟨q₁, hq₁, x₁, hx₁, hc₁⟩ := h₁.entry hf n hn q₂ hq₂ x₂ hx₂
    exact ⟨q₁, hq₁, x₁, hx₁, hc₂.trans hc₁⟩

/-- What spares some numbers spares fewer. -/
theorem mono {S' : UInt16 → Prop} (h : Spares S e₁ e₂) (hS : ∀ n, S' n → S n) :
    Spares S' e₁ e₂ where
  config := h.config
  fit := h.fit
  slot hf n hn := h.slot hf n (hS n hn)
  entry hf n hn := h.entry hf n (hS n hn)

/-- A step that keeps the configuration, the peer, the send ring and the queue. -/
theorem of_frame (hcfg : e₂.session.info.config = e₁.session.info.config)
    (hrem : e₂.session.info.remote = e₁.session.info.remote)
    (hr : e₂.session.sendRing = e₁.session.sendRing)
    (hq : e₂.session.retransmit = e₁.session.retransmit) : Spares S e₁ e₂ where
  config := hcfg
  fit h := ⟨by rw [hr]; exact h.wf, by rw [hr, hrem]; exact h.room, by rw [hq]; exact h.small⟩
  slot _ _ _ r' hr' hu := ⟨r', by rw [← hr]; exact hr', hu, rfl⟩
  entry _ _ _ q' hq' x' hx := ⟨q', by rw [← hq]; exact hq', x', hx, rfl⟩

theorem of_spoken (h : Act.Spoken e₁ e₂) : Spares S e₁ e₂ :=
  of_frame (by rw [h.2]) (by rw [h.2]) (by rw [h.2]) (by rw [h.2])

theorem of_sameTalk (h : SameTalk e₁ e₂) (hq : e₂.session.retransmit = e₁.session.retransmit) :
    Spares S e₁ e₂ :=
  of_frame (by rw [h.2.1]) (by rw [h.2.1]) h.2.2.1 hq

/-- A step that keeps the send ring and the queue, and records a new peer only while there is
no send ring. -/
theorem of_peer (hcfg : e₂.session.info.config = e₁.session.info.config)
    (hr : e₂.session.sendRing = e₁.session.sendRing)
    (hq : e₂.session.retransmit = e₁.session.retransmit)
    (hrem : ∀ c, e₂.session.info.remote = some c →
      e₁.session.info.remote = some c ∨ e₁.session.sendRing = none) :
    Spares S e₁ e₂ where
  config := hcfg
  fit h := by
    refine ⟨by rw [hr]; exact h.wf, fun ring c hring hc ↦ ?_, by rw [hq]; exact h.small⟩
    rw [hr] at hring
    rcases hrem c hc with hc₁ | hnone
    · exact h.room ring c hring hc₁
    · rw [hnone] at hring
      cases hring
  slot _ _ _ r' hr' hu := ⟨r', by rw [← hr]; exact hr', hu, rfl⟩
  entry _ _ _ q' hq' x' hx := ⟨q', by rw [← hq]; exact hq', x', hx, rfl⟩

/-- A step that drops the send ring and the queue. -/
theorem of_none (hcfg : e₂.session.info.config = e₁.session.info.config)
    (hr : e₂.session.sendRing = none) (hq : e₂.session.retransmit = none) : Spares S e₁ e₂ where
  config := hcfg
  fit _ := ⟨by rw [hr]; nofun, by rw [hr]; nofun, by rw [hq]; nofun⟩
  slot _ _ _ r' hr' := by
    rw [hr] at hr'
    cases hr'
  entry _ _ _ q' hq' := by
    rw [hq] at hq'
    cases hq'

/-- A step that moves both windows by one operation each: the ring keeps its slot size and each
spared number in use keeps its bytes, and the queue keeps its capacity and each spared entry its
count. -/
theorem of_windows {r r' : SegmentBuffer} {q q' : RetransmitQueue}
    (hcfg : e₂.session.info.config = e₁.session.info.config)
    (hrem : e₂.session.info.remote = e₁.session.info.remote)
    (hr : e₁.session.sendRing = some r) (hr' : e₂.session.sendRing = some r')
    (hq : e₁.session.retransmit = some q) (hq' : e₂.session.retransmit = some q')
    (hwf : r.WellFormed → r'.WellFormed) (hsize : r'.slotSize = r.slotSize)
    (hcap : q'.capacity = q.capacity)
    (hslot : r.WellFormed → ∀ n, S n → r'.isInUse n = true → r.isInUse n = true ∧ r'.slot n = r.slot n)
    (hentry : q.capacity < 256 → ∀ n, S n → ∀ x', RetransmitQueue.entry? q' n = some x' →
      ∃ x, q.entry? n = some x ∧ x'.transmissions = x.transmissions) :
    Spares S e₁ e₂ where
  config := hcfg
  fit h := by
    refine ⟨fun ring hring ↦ ?_, fun ring c hring hc ↦ ?_, fun q₂ hq₂ ↦ ?_⟩
    · rw [hr'] at hring
      cases hring
      exact hwf (h.wf r hr)
    · rw [hr'] at hring
      cases hring
      rw [hsize]
      exact h.room r c hr (hrem ▸ hc)
    · rw [hq'] at hq₂
      cases hq₂
      rw [hcap]
      exact h.small q hq
  slot h n hn r₂ hr₂ hu := by
    rw [hr'] at hr₂
    cases hr₂
    obtain ⟨hu₁, hs⟩ := hslot (h.wf r hr) n hn hu
    exact ⟨r, hr, hu₁, hs⟩
  entry h n hn q₂ hq₂ x' hx := by
    rw [hq'] at hq₂
    cases hq₂
    exact ⟨q, hq, hentry (h.small q hq) n hn x' hx⟩

end Spares

end Endpoint

/-! ### Each action -/

namespace Act

open Endpoint

variable (e : Endpoint) {S : UInt16 → Prop}

theorem spares_transmit (h : Header) : Spares S e ((transmit h).run e).2 :=
  .of_spoken (spoken_transmit e h)

theorem spares_sendSyn (ack : Option UInt16) : Spares S e ((sendSyn ack).run e).2 :=
  .of_spoken (spoken_sendSyn e ack)

theorem spares_sendRst : Spares S e (sendRst.run e).2 :=
  .of_spoken (spoken_sendRst e)

theorem spares_sendAck : Spares S e (sendAck.run e).2 :=
  .of_spoken (spoken_sendAck e)

theorem spares_replyRst (c : Common) : Spares S e ((replyRst c).run e).2 :=
  .of_spoken (spoken_replyRst e c)

theorem spares_armKeepAlive : Spares S e (armKeepAlive.run e).2 :=
  .of_sameTalk (sameTalk_armKeepAlive e) (by rw [run_armKeepAlive]; split <;> (try split) <;> rfl)

/-- Withdrawing the retransmission wake-ups empties the queue. -/
theorem spares_cancelRetransmissions : Spares S e (cancelRetransmissions.run e).2 := by
  rw [run_cancelRetransmissions]
  split
  · rename_i q hq
    cases hr : e.session.sendRing with
    | none =>
      exact {
        config := rfl
        fit := fun h ↦ ⟨h.wf, h.room, fun q' hq' ↦ by
          cases hq'
          rw [RetransmitQueue.capacity_setBase]
          exact h.small q hq⟩
        slot := fun _ _ _ r' hr' hu ↦ ⟨r', hr', hu, rfl⟩
        entry := fun _ n _ q' hq' x' hx ↦ by
          cases hq'
          rw [RetransmitQueue.entry?_setBase] at hx
          cases hx }
    | some r =>
      refine Spares.of_windows rfl rfl hr hr hq rfl id rfl (RetransmitQueue.capacity_setBase _ _ _)
        (fun _ _ _ hu ↦ ⟨hu, rfl⟩) fun _ n _ x' hx ↦ ?_
      rw [RetransmitQueue.entry?_setBase] at hx
      cases hx
  · exact Spares.refl e

theorem spares_leave (st : State) : Spares S e ((leave st).run e).2 := by
  cases st with
  | closed | waiting => exact Spares.refl e
  | initiating | connecting => exact .of_sameTalk (sameTalk_cancelHandshake e) rfl
  | connected =>
    rw [run_leave_connected]
    exact (spares_cancelRetransmissions e).trans (.of_sameTalk (sameTalk_cancelKeepAlive _) rfl)
  | disconnecting => exact .of_sameTalk (sameTalk_cancelDisconnect e) rfl

/-- Opening the windows makes a ring with nothing in use and a queue with no entries, sized for
the peer. -/
theorem spares_openWindows : Spares S e (openWindows.run e).2 where
  config := rfl
  fit _ := by
    rw [run_openWindows]
    refine ⟨fun r hr ↦ ?_, fun r c hr hc ↦ ?_, fun q hq ↦ ?_⟩
    · cases hr
      exact (SegmentBuffer.WellFormed.new _ _).setBase _
    · cases hr
      dsimp only at hc
      rw [hc, Option.getD_some, SegmentBuffer.slotSize_setBase, SegmentBuffer.slotSize_new]
      exact le_max_left _ _
    · cases hq
      rw [RetransmitQueue.capacity_setBase, RetransmitQueue.capacity_new]
      exact max_lt (UInt8.toNat_lt _) (by decide)
  slot _ _ _ r' hr' hu := by
    rw [run_openWindows] at hr'
    cases hr'
    rw [SegmentBuffer.isInUse_setBase] at hu
    cases hu
  entry _ _ _ q' hq' x' hx := by
    rw [run_openWindows] at hq'
    cases hq'
    rw [RetransmitQueue.entry?_setBase] at hx
    cases hx

theorem spares_cancelAllTimers : Spares S e (cancelAllTimers.run e).2 := by
  rw [run_cancelAllTimers]
  exact (((spares_cancelRetransmissions e).trans (.of_sameTalk (sameTalk_cancelHandshake _) rfl)).trans
    (.of_sameTalk (sameTalk_cancelKeepAlive _) rfl)).trans (.of_sameTalk (sameTalk_cancelDisconnect _) rfl)

theorem spares_dropWindows : Spares S e (dropWindows.run e).2 := by
  rw [run_dropWindows]
  exact (spares_cancelRetransmissions e).trans (.of_none rfl rfl rfl)

theorem spares_arrive (next : State) : Spares S e ((arrive next).run e).2 := by
  cases next with
  | closed =>
    rw [run_arrive_closed]
    exact (spares_cancelAllTimers e).trans (spares_dropWindows _)
  | waiting =>
    rw [run_arrive_waiting]
    exact (spares_cancelAllTimers e).trans (spares_dropWindows _)
  | initiating =>
    rw [run_arrive_initiating]
    exact (spares_sendSyn e none).trans (.of_sameTalk (sameTalk_armHandshake _) rfl)
  | connecting =>
    rw [run_arrive_connecting]
    exact (spares_sendSyn e _).trans (.of_sameTalk (sameTalk_armHandshake _) rfl)
  | connected =>
    rw [run_arrive_connected]
    split
    · exact spares_openWindows e
    · exact (spares_openWindows e).trans (spares_armKeepAlive _)
  | disconnecting =>
    rw [run_arrive_disconnecting]
    exact .of_sameTalk (sameTalk_armDisconnect e) rfl

theorem spares_setState (next : State) :
    Spares S e { e with session := { e.session with state := next } } :=
  .of_frame rfl rfl rfl rfl

theorem spares_entered (st : State) : Spares S e { e with effects := e.effects ++ [.entered st] } :=
  .of_frame rfl rfl rfl rfl

theorem spares_enter (next : State) : Spares S e ((enter next).run e).2 := by
  rw [run_enter]
  split
  · exact Spares.refl e
  · exact (((spares_leave e _).trans (spares_setState _ next)).trans (spares_arrive _ next)).trans
      (spares_entered _ next)

theorem spares_reset : Spares S e (reset.run e).2 := by
  rw [run_reset]
  exact spares_enter e _

theorem spares_establish : Spares S e (establish.run e).2 := by
  rw [run_establish]
  refine Spares.trans ?_ (spares_enter _ _)
  exact .of_frame rfl rfl rfl rfl

/-! ### Wake-ups -/

theorem spares_handshakeTimeout (h : Handle) : Spares S e ((handshakeTimeout h).run e).2 := by
  rw [run_handshakeTimeout]
  split
  · exact Spares.refl e
  split
  · exact .of_frame rfl rfl rfl rfl
  · rw [run_rearmHandshake]
    exact .of_frame rfl rfl rfl rfl

theorem spares_keepAliveFired (h : Handle) : Spares S e ((keepAliveFired h).run e).2 := by
  rw [run_keepAliveFired]
  split
  · exact Spares.refl e
  · dsimp only
    refine Spares.trans ?_ (spares_armKeepAlive _)
    split
    · refine Spares.trans ?_ (spares_transmit _ _)
      exact .of_frame rfl rfl rfl rfl
    · exact .of_frame rfl rfl rfl rfl

/-- Delivering the retransmission wake-up of `seq` touches the entry of `seq` only. -/
theorem spares_retransmitFired (seq : UInt16) (h : Handle) :
    Spares (· ≠ seq) e ((retransmitFired seq h).run e).2 := by
  refine retransmitFired_cases e seq h (Spares.refl e) fun _ _ hr hq ↦
    ⟨?_, fun _ h ↦ h.trans (.of_frame rfl rfl rfl rfl)⟩
  -- whatever the outcome, the ring stays and the queue is the fired one
  exact Spares.of_windows rfl rfl hr hr hq rfl id rfl (RetransmitQueue.capacity_fire _ _ _ _ _)
    (fun _ _ _ hu ↦ ⟨hu, rfl⟩) fun _ n hn x' hx ↦
      ⟨x', by rwa [RetransmitQueue.entry?_fire_of_ne hn] at hx, rfl⟩

/-! ### Moving data -/

/-- Accepting a payload touches the slot and the entry of the number it sends only. -/
theorem spares_sendData (payload : Bytes) :
    Spares (· ≠ e.session.info.sendNext) e ((sendData payload).run e).2 := by
  rcases run_sendData e payload with ⟨err, hrun⟩ |
    ⟨r, ring, queue, hdr, bytes, -, hr, hq, -, -, -, -, hrun⟩
  · rw [hrun]
    exact Spares.refl e
  rw [hrun]
  refine Spares.of_windows rfl rfl hr rfl hq rfl (fun h ↦ h.store _ _) (SegmentBuffer.slotSize_store _ _ _)
    (RetransmitQueue.capacity_add _ _ _ _) (fun hwf n hn hu ↦ ?_) fun _ n hn x' hx ↦ ?_
  · rw [SegmentBuffer.isInUse_store, Bool.or_eq_true, Bool.and_eq_true, beq_iff_eq] at hu
    exact ⟨hu.resolve_right fun h ↦ hn h.1, hwf.slot_store_of_ne hn bytes⟩
  · exact ⟨x', by rwa [RetransmitQueue.entry?_add_of_ne hn] at hx, rfl⟩

/-- A cumulative acknowledgment moves both windows past what it acknowledges. -/
theorem spares_acknowledge (ack : UInt16) : Spares S e ((acknowledge ack).run e).2 := by
  refine acknowledge_cases e ack (Spares.refl e) fun ring queue hr hq _ ↦ ?_
  refine Spares.of_windows rfl rfl hr rfl hq rfl (fun h ↦ h.advanceBase _)
    (SegmentBuffer.slotSize_advanceBase _ _) (RetransmitQueue.capacity_advance _ _ _)
    (fun hwf n _ hu ↦ ?_) fun hcap n _ x' hx ↦ ?_
  · refine ⟨?_, SegmentBuffer.WellFormed.slot_advanceBase hwf hu⟩
    rw [SegmentBuffer.isInUse_advanceBase hwf, Bool.and_eq_true] at hu
    exact hu.2
  · rw [RetransmitQueue.entry?_advance hcap] at hx
    split at hx
    · exact ⟨x', hx, rfl⟩
    · cases hx

/-- Extended acknowledgments release segments from both windows. -/
theorem spares_acknowledgeEach (acks : List UInt16) :
    Spares S e ((acknowledgeEach acks).run e).2 := by
  refine acknowledgeEach_induction e acks (Spares.refl e) fun _ ring _ _ hr hq _ h ↦ h.trans ?_
  refine Spares.of_windows rfl rfl hr rfl hq rfl (fun h ↦ h.unmark _)
    (SegmentBuffer.slotSize_unmark _ _) (RetransmitQueue.capacity_remove _ _ _)
    (fun hwf n _ hu ↦ ?_) fun _ n _ x' hx ↦ ⟨x', RetransmitQueue.entry?_remove_eq_some hx, rfl⟩
  rw [SegmentBuffer.isInUse_unmark, Bool.and_eq_true, bne_iff_ne] at hu
  exact ⟨hu.1, hwf.slot_unmark_of_ne hu.2⟩

theorem spares_drainHeld (fuel : Nat) : Spares S e ((drainHeld fuel).run e).2 :=
  drainHeld_induction e fuel (Spares.refl e) (fun _ _ _ _ _ _ h ↦ h.trans (.of_frame rfl rfl rfl rfl))
    fun _ _ _ _ h ↦ h.trans (.of_frame rfl rfl rfl rfl)

theorem spares_deliver (seq : UInt16) (payload : Bytes) :
    Spares S e ((deliver seq payload).run e).2 := by
  rw [run_deliver]
  refine Spares.trans ?_ (spares_drainHeld _ _)
  exact .of_frame rfl rfl rfl rfl

theorem spares_segmentArrives (c : Common) (acks : List UInt16) (payload : Bytes) :
    Spares S e ((segmentArrives c acks payload).run e).2 := by
  rw [run_segmentArrives]
  split
  · dsimp only
    have h₁ : Spares S e (if c.flags.has .ack then ((acknowledge c.ack).run e).2 else e) := by
      split
      · exact spares_acknowledge e c.ack
      · exact Spares.refl e
    generalize (if c.flags.has .ack then ((acknowledge c.ack).run e).2 else e) = e₁ at h₁ ⊢
    have h₂ : Spares S e (if acks.isEmpty then e₁ else ((acknowledgeEach acks).run e₁).2) := by
      split
      · exact h₁
      · exact h₁.trans (spares_acknowledgeEach e₁ acks)
    generalize (if acks.isEmpty then e₁ else ((acknowledgeEach acks).run e₁).2) = e₂ at h₂ ⊢
    split
    · exact h₂
    · refine (h₂.trans ?_).trans (spares_sendAck _)
      split
      · exact spares_deliver e₂ _ _
      · split
        · split
          · exact .of_frame rfl rfl rfl rfl
          · exact Spares.refl e₂
        · exact Spares.refl e₂
  · exact spares_sendAck e

theorem spares_nulArrives (c : Common) : Spares S e ((nulArrives c).run e).2 := by
  rw [run_nulArrives]
  refine Spares.trans ?_ (spares_sendAck _)
  split
  · exact spares_acknowledge e c.ack
  · exact Spares.refl e

/-! ### Each handler -/

/-- A SYN is taken only while the session holds no send ring, that is while it waits or
initiates. -/
theorem spares_onSyn (hopen : e.session.state = .waiting ∨ e.session.state = .initiating →
      e.session.sendRing = none) (c : Common) (config : Config) :
    Spares S e ((onSyn c config).run e).2 := by
  have accepted : e.session.state = .waiting ∨ e.session.state = .initiating →
      Spares S e { e with session := { e.session with info := { e.session.info with
        remote := some config, receiveInitial := c.seq, receiveAcked := c.seq } } } :=
    fun hs ↦ .of_peer rfl rfl rfl fun _ _ ↦ .inr (hopen hs)
  exact onSyn_cases (motive := Spares S e) e c config (fun _ ↦ spares_replyRst e c)
    (fun hs _ _ ↦ (accepted hs).trans (spares_enter _ _))
    (fun hst _ _ ↦ (accepted (.inr hst)).trans ((spares_establish _).trans (spares_sendAck _)))
    (fun _ ↦ (spares_replyRst e c).trans (spares_reset _))
    (fun _ _ _ ↦ (spares_establish e).trans (spares_sendAck _))
    (fun _ _ _ ↦ spares_sendSyn e _) (fun _ _ ↦ spares_sendAck e)
    (fun _ _ ↦ (spares_replyRst e c).trans (spares_enter _ _)) (fun _ ↦ Spares.refl e)

theorem spares_onRst : Spares S e (onRst.run e).2 :=
  onRst_cases (motive := Spares S e) e (fun _ ↦ spares_reset e)
    (fun _ ↦ (spares_sendRst e).trans (spares_enter _ _)) (fun _ ↦ spares_enter e _)
    (fun _ ↦ Spares.refl e)

theorem spares_onNul (c : Common) : Spares S e ((onNul c).run e).2 :=
  onNul_cases (motive := Spares S e) e c (fun _ ↦ spares_replyRst e c)
    (fun _ _ ↦ (spares_establish e).trans (spares_nulArrives _ c)) (fun _ _ ↦ spares_replyRst e c)
    (fun _ ↦ spares_nulArrives e c) (fun _ ↦ Spares.refl e)

theorem spares_onEack (c : Common) (acks : List UInt16) (payload : Bytes) :
    Spares S e ((onEack c acks payload).run e).2 :=
  onEack_cases (motive := Spares S e) e c acks payload (fun _ ↦ spares_replyRst e c)
    (fun _ ↦ (spares_replyRst e c).trans (spares_reset _))
    (fun _ ↦ spares_segmentArrives e c acks payload) (fun _ ↦ Spares.refl e)

theorem spares_onAck (c : Common) (payload : Bytes) : Spares S e ((onAck c payload).run e).2 :=
  onAck_cases (motive := Spares S e) e c payload (fun _ ↦ spares_replyRst e c)
    (fun _ _ ↦ (spares_establish e).trans (spares_segmentArrives _ c [] payload))
    (fun _ _ ↦ spares_replyRst e c) (fun _ ↦ spares_segmentArrives e c [] payload)
    (fun _ ↦ Spares.refl e)

theorem spares_receive (hopen : e.session.state = .waiting ∨ e.session.state = .initiating →
      e.session.sendRing = none) (datagram : Bytes) :
    Spares S e ((receive datagram).run e).2 := by
  refine receive_cases e datagram (Spares.refl e) fun seg _ _ ↦ ?_
  unfold onSegment
  split
  · exact spares_onSyn e hopen _ _
  · exact spares_onRst e
  · exact spares_onNul e _
  · exact spares_onAck e _ _
  · exact spares_onEack e _ _ _

/-- A wake-up spares every number but the one whose retransmission it is. -/
theorem spares_timerFired (hd : Handle) (timer : Timer) :
    Spares (fun n ↦ timer ≠ .retransmission n) e ((timerFired hd timer).run e).2 := by
  -- only the retransmission wake-up of a number can free its slot
  have hseq : ∀ seq, timer = .retransmission seq → ∀ n, timer ≠ .retransmission n → n ≠ seq :=
    fun seq ht n hn h ↦ hn (by rw [ht, h])
  refine timerFired_cases (motive := Spares (fun n ↦ timer ≠ .retransmission n) e) e hd timer
    (Spares.refl e) (fun seq _ ht _ ↦ (spares_retransmitFired e seq hd).mono (hseq seq ht))
    (fun seq _ ht _ ↦ ((spares_retransmitFired e seq hd).trans
      ((spares_sendRst _).trans (spares_enter _ _))).mono (hseq seq ht))
    (fun _ _ ↦ spares_keepAliveFired e hd) ?retriedSyn ?retriedSynAck ?finished
  case retriedSyn =>
    intro _ _
    rw [run_bind]
    refine (spares_handshakeTimeout e hd).trans ?_
    split
    · exact spares_sendSyn _ none
    · exact spares_reset _
    · exact Spares.refl _
  case retriedSynAck =>
    intro _ _
    rw [run_bind]
    refine (spares_handshakeTimeout e hd).trans ?_
    split
    · rw [run_bind, run_info]
      exact spares_sendSyn _ _
    · exact spares_reset _
    · exact Spares.refl _
  case finished =>
    intro _ _ _
    refine Spares.trans ?_ (spares_enter _ _)
    exact .of_frame rfl rfl rfl rfl

theorem spares_close : Spares S e (close.run e).2 :=
  close_cases (motive := Spares S e) e (Spares.refl e) (fun _ ↦ spares_enter e _)
    (fun _ ↦ (spares_transmit e _).trans (spares_enter _ _))
    (fun _ ↦ (spares_sendRst e).trans (spares_enter _ _))
    (fun _ ↦ (spares_sendRst e).trans (spares_enter _ _))

/-- Starting afresh forgets the peer. -/
theorem spares_start (iss : UInt16) (passive : Bool) : Spares S e ((start iss passive).run e).2 := by
  rw [run_start]
  exact .of_peer rfl rfl rfl nofun

theorem spares_connect (iss : UInt16) : Spares S e ((connect iss).run e).2 :=
  connect_cases (motive := Spares S e) e iss (Spares.refl e)
    fun _ ↦ (spares_start e iss false).trans (spares_enter _ _)

theorem spares_wait (iss : UInt16) : Spares S e ((wait iss).run e).2 :=
  wait_cases (motive := Spares S e) e iss (Spares.refl e)
    fun _ ↦ (spares_start e iss true).trans (spares_enter _ _)

/-- Offering a payload spares every number but the one it accepts. -/
theorem spares_send (payload : Bytes) :
    Spares (fun n ↦ Effect.accepted n ∉ ((send payload).run e).2.effects) e
      ((send payload).run e).2 := by
  refine send_cases (motive := fun x ↦ Spares (fun n ↦ Effect.accepted n ∉ x.effects) e x) e
    payload (Spares.refl e) fun _ ↦ ?_
  -- a number whose payload was not taken keeps its slot
  rcases run_sendData e payload with ⟨err, hrun⟩ |
    ⟨r, ring, queue, hdr, bytes, -, -, -, -, -, -, -, hrun⟩
  · rw [hrun]
    exact Spares.refl e
  · refine (spares_sendData e payload).mono fun n hn h ↦ hn ?_
    rw [hrun, h]
    simp

end Act

namespace Endpoint

open Act

/-- **What an event spares.** Every event spares each number that it does not accept and whose
retransmission wake-up it does not deliver. A SYN is taken only when the session holds no send
ring while it waits or initiates, which every reachable session satisfies. -/
theorem spares_handle (e : Endpoint) (hopen : e.session.state = .waiting ∨
      e.session.state = .initiating → e.session.sendRing = none) (ev : Event) :
    Spares (fun n ↦ Effect.accepted n ∉ (e.handle ev).effects ∧ ∀ h, ev ≠ .fire h (.retransmission n))
      (e.prepare ev) (e.handle ev) := by
  cases ev with
  | connect iss => exact spares_connect _ iss
  | wait iss => exact spares_wait _ iss
  | close => exact spares_close _
  | invalidate => exact spares_enter _ _
  | send payload =>
    simp only [handle, Event.act, run_bind, run_pure]
    exact (spares_send _ payload).mono fun n hn ↦ hn.1
  | receive datagram => exact spares_receive _ (by rw [session_prepare]; exact hopen) datagram
  | fire hd timer =>
    exact (spares_timerFired _ hd timer).mono fun n hn ht ↦ hn.2 hd (by rw [ht])

variable {e : Endpoint}

/-- A reachable session that waits or initiates holds no send ring. -/
theorem Reachable.sendRing_eq_none_of_opening (h : e.Reachable)
    (hst : e.session.state = .waiting ∨ e.session.state = .initiating) : e.session.sendRing = none := by
  rcases hst with hst | hst
  · have hw := h.invariant.windows
    unfold Session.WindowsFit at hw
    rw [hst] at hw
    exact hw.1
  · obtain ⟨r, -, hf⟩ := h.fitsTo
    rcases hf.peer with hr | ⟨-, hs, -⟩
    · rw [hf.initiating hst] at hr
      cases hr
    · exact hs

/-- The endpoint as the host hands an event over has the session it found. -/
theorem spares_prepare (e : Endpoint) (ev : Event) : Spares S e (e.prepare ev) :=
  .of_frame (by rw [session_prepare]) (by rw [session_prepare]) (by rw [session_prepare])
    (by rw [session_prepare])

/-- Every event a reachable endpoint is handed spares each number it neither accepts nor
fires. -/
theorem Reachable.spares_handle (h : e.Reachable) (ev : Event) :
    Spares (fun n ↦ Effect.accepted n ∉ (e.handle ev).effects ∧ ∀ hd, ev ≠ .fire hd (.retransmission n))
      e (e.handle ev) :=
  (spares_prepare e ev).trans (Endpoint.spares_handle e h.sendRing_eq_none_of_opening ev)

/-- Every reachable session's send side is fit. -/
theorem Reachable.sendFit (h : e.Reachable) : e.session.SendFit := by
  induction h with
  | @fresh c s hs =>
    obtain rfl := Session.eq_of_new hs
    exact ⟨nofun, nofun, nofun⟩
  | handle ev he ih => exact (he.spares_handle ev).fit ih

end Endpoint

end ReliableDatagram
