import ReliableDatagram.Proofs.Moves
import ReliableDatagram.Proofs.QueueBooks
/-!
# The windows stay sound

A connection's windows are built by `openWindows` and afterwards changed only through their own
operations: a ring is moved, stored into and released; the retransmission queue is moved, added
to, removed from and fired. Each of these keeps a buffer well formed (`SegmentBuffer.WellFormed`:
its list threads the slots in use, its counter counts them, and it has one region per slot) and a
queue counted (`RetransmitQueue.Counted`: the count is the
number of live entries). So every session a host can reach holds sound windows
(`Endpoint.Reachable.windowsSound`).

The proof follows the session's code action by action. Speaking to the peer and arming or
withdrawing the handshake, keep-alive and disconnect wake-ups leave the windows alone; closing
and waiting drop them; each action that moves data changes them by one operation per window.
-/

namespace ReliableDatagram

namespace Session

/-- The windows a session holds are sound: both buffers are well formed, and the retransmission
queue counts its live entries. -/
structure WindowsSound (s : Session) : Prop where
  sendRing : ∀ r, s.sendRing = some r → r.WellFormed
  receiveRing : ∀ r, s.receiveRing = some r → r.WellFormed
  queue : ∀ q, s.retransmit = some q → q.Counted

namespace WindowsSound

variable {s : Session}

/-- A change that leaves the three windows as they are keeps them sound. -/
theorem frame (hs : s.WindowsSound) {s' : Session} (hsend : s'.sendRing = s.sendRing)
    (hrecv : s'.receiveRing = s.receiveRing) (hq : s'.retransmit = s.retransmit) :
    s'.WindowsSound where
  sendRing := by rw [hsend]; exact hs.sendRing
  receiveRing := by rw [hrecv]; exact hs.receiveRing
  queue := by rw [hq]; exact hs.queue

/-- A session without windows holds nothing unsound. -/
theorem of_none (hsend : s.sendRing = none) (hrecv : s.receiveRing = none)
    (hq : s.retransmit = none) : s.WindowsSound where
  sendRing r h := by rw [hsend] at h; cases h
  receiveRing r h := by rw [hrecv] at h; cases h
  queue q h := by rw [hq] at h; cases h

open Act

variable {e : Endpoint}

/-! ### Actions that leave the windows alone -/

theorem spoken (hs : e.session.WindowsSound) {e' : Endpoint} (h : Spoken e e') :
    e'.session.WindowsSound := by
  rw [h.2]
  exact hs.frame rfl rfl rfl

theorem transmit (hs : e.session.WindowsSound) (h : Header) :
    ((Act.transmit h).run e).2.session.WindowsSound :=
  hs.spoken (spoken_transmit e h)

theorem sendSyn (hs : e.session.WindowsSound) (ack : Option UInt16) :
    ((Act.sendSyn ack).run e).2.session.WindowsSound :=
  hs.spoken (spoken_sendSyn e ack)

theorem sendRst (hs : e.session.WindowsSound) : (Act.sendRst.run e).2.session.WindowsSound :=
  hs.spoken (spoken_sendRst e)

theorem sendAck (hs : e.session.WindowsSound) : (Act.sendAck.run e).2.session.WindowsSound :=
  hs.spoken (spoken_sendAck e)

theorem replyRst (hs : e.session.WindowsSound) (c : Common) :
    ((Act.replyRst c).run e).2.session.WindowsSound :=
  hs.spoken (spoken_replyRst e c)

theorem armHandshake (hs : e.session.WindowsSound) :
    (Act.armHandshake.run e).2.session.WindowsSound := by
  rw [run_armHandshake, run_rearmHandshake]
  exact hs.frame rfl rfl rfl

theorem armKeepAlive (hs : e.session.WindowsSound) :
    (Act.armKeepAlive.run e).2.session.WindowsSound := by
  rw [run_armKeepAlive]
  split
  · exact hs
  · split
    · exact hs
    · exact hs.frame rfl rfl rfl

theorem armDisconnect (hs : e.session.WindowsSound) :
    (Act.armDisconnect.run e).2.session.WindowsSound := by
  rw [run_armDisconnect]
  exact hs.frame rfl rfl rfl

theorem handshakeTimeout (hs : e.session.WindowsSound) (h : Handle) :
    ((Act.handshakeTimeout h).run e).2.session.WindowsSound := by
  rw [run_handshakeTimeout]
  split
  · exact hs
  · split
    · exact hs.frame rfl rfl rfl
    · dsimp only
      rw [run_rearmHandshake]
      exact hs.frame rfl rfl rfl

theorem keepAliveFired (hs : e.session.WindowsSound) (h : Handle) :
    ((Act.keepAliveFired h).run e).2.session.WindowsSound := by
  rw [run_keepAliveFired]
  split
  · exact hs
  · dsimp only
    refine armKeepAlive ?_
    split
    · refine transmit ?_ _
      exact hs.frame rfl rfl rfl
    · exact hs.frame rfl rfl rfl

/-! ### Withdrawing the retransmissions and the windows -/

theorem cancelRetransmissions (hs : e.session.WindowsSound) :
    (Act.cancelRetransmissions.run e).2.session.WindowsSound := by
  rw [run_cancelRetransmissions]
  split
  · rename_i q hq
    refine ⟨hs.sendRing, hs.receiveRing, fun q' h ↦ ?_⟩
    cases h
    exact RetransmitQueue.counted_setBase q _ _
  · exact hs

theorem cancelAllTimers (hs : e.session.WindowsSound) :
    (Act.cancelAllTimers.run e).2.session.WindowsSound := by
  rw [run_cancelAllTimers, run_cancelDisconnect, run_cancelKeepAlive, run_cancelHandshake]
  exact (cancelRetransmissions hs).frame rfl rfl rfl

theorem leave (hs : e.session.WindowsSound) (st : State) :
    ((Act.leave st).run e).2.session.WindowsSound := by
  cases st with
  | closed | waiting => exact hs
  | initiating | connecting => exact hs.frame rfl rfl rfl
  | connected =>
    rw [run_leave_connected, run_cancelKeepAlive]
    exact (cancelRetransmissions hs).frame rfl rfl rfl
  | disconnecting => exact hs.frame rfl rfl rfl

/-- Opening builds well-formed buffers and an empty queue, whatever the peer's configuration. -/
theorem openWindows (e : Endpoint) : (Act.openWindows.run e).2.session.WindowsSound := by
  rw [run_openWindows]
  refine ⟨fun r h ↦ ?_, fun r h ↦ ?_, fun q h ↦ ?_⟩
  · cases h
    exact (SegmentBuffer.WellFormed.new _ _).setBase _
  · cases h
    exact (SegmentBuffer.WellFormed.new _ _).setBase _
  · cases h
    exact RetransmitQueue.counted_setBase _ _ _

theorem arrive (hs : e.session.WindowsSound) (next : State) :
    ((Act.arrive next).run e).2.session.WindowsSound := by
  cases next with
  | closed | waiting =>
    first | rw [run_arrive_closed] | rw [run_arrive_waiting]
    rw [run_dropWindows]
    exact .of_none rfl rfl rfl
  | initiating =>
    rw [run_arrive_initiating]
    exact armHandshake (sendSyn hs _)
  | connecting =>
    rw [run_arrive_connecting]
    exact armHandshake (sendSyn hs _)
  | connected =>
    rw [run_arrive_connected]
    split
    · exact openWindows e
    · exact armKeepAlive (openWindows e)
  | disconnecting =>
    rw [run_arrive_disconnecting]
    exact armDisconnect hs

theorem enter (hs : e.session.WindowsSound) (next : State) :
    ((Act.enter next).run e).2.session.WindowsSound := by
  rw [run_enter]
  split
  · exact hs
  · dsimp only
    -- leaving keeps the windows sound, switching the state touches none, arriving keeps them
    have h₁ := leave hs e.session.state
    have h₂ := arrive (e := { ((Act.leave e.session.state).run e).2 with
      session := { ((Act.leave e.session.state).run e).2.session with state := next } })
      (h₁.frame rfl rfl rfl) next
    exact h₂.frame rfl rfl rfl

theorem reset (hs : e.session.WindowsSound) : (Act.reset.run e).2.session.WindowsSound := by
  rw [run_reset]
  exact enter hs _

theorem establish (hs : e.session.WindowsSound) : (Act.establish.run e).2.session.WindowsSound := by
  rw [run_establish]
  refine enter ?_ _
  exact hs.frame rfl rfl rfl

/-! ### Moving data -/

theorem acknowledge (hs : e.session.WindowsSound) (ack : UInt16) :
    ((Act.acknowledge ack).run e).2.session.WindowsSound := by
  refine Act.acknowledge_cases (motive := fun x ↦ x.session.WindowsSound) e ack hs
    fun ring queue hr hq _ ↦ ?_
  -- both the send ring and the queue move past what is acknowledged
  refine ⟨fun r h ↦ ?_, hs.receiveRing, fun q h ↦ ?_⟩
  · cases h
    exact (hs.sendRing ring hr).advanceBase _
  · cases h
    exact (hs.queue queue hq).advance _ _

theorem acknowledgeEach (hs : e.session.WindowsSound) (acks : List UInt16) :
    ((Act.acknowledgeEach acks).run e).2.session.WindowsSound := by
  refine Act.acknowledgeEach_induction (motive := fun x ↦ x.session.WindowsSound) e acks hs
    fun _ ring queue _ hr hq _ h ↦ ?_
  -- the segment is released from the ring and its entry from the queue
  refine ⟨fun r h' ↦ ?_, h.receiveRing, fun q h' ↦ ?_⟩
  · cases h'
    exact (h.sendRing ring hr).unmark _
  · cases h'
    exact (h.queue queue hq).remove _ _

/-- Moving the receive ring along, as delivering held segments does. -/
theorem withReceiveRing (hs : e.session.WindowsSound) {ring ring' : SegmentBuffer}
    (hr : e.session.receiveRing = some ring) (hring : ring.WellFormed → ring'.WellFormed)
    {s' : Session} (hsend : s'.sendRing = e.session.sendRing) (hrecv : s'.receiveRing = some ring')
    (hq : s'.retransmit = e.session.retransmit) : s'.WindowsSound where
  sendRing := by rw [hsend]; exact hs.sendRing
  receiveRing r h := by
    rw [hrecv] at h
    cases h
    exact hring (hs.receiveRing ring hr)
  queue := by rw [hq]; exact hs.queue

theorem drainHeld (hs : e.session.WindowsSound) (fuel : Nat) :
    ((Act.drainHeld fuel).run e).2.session.WindowsSound :=
  Act.drainHeld_induction (motive := fun x ↦ x.session.WindowsSound) e fuel hs
    (fun _ _ _ hr _ _ h ↦ h.withReceiveRing hr (fun hb ↦ hb.advanceBase 1) rfl rfl rfl)
    fun _ _ hr _ h ↦ h.withReceiveRing hr (fun hb ↦ hb.advanceBase 1) rfl rfl rfl

theorem deliver (hs : e.session.WindowsSound) (seq : UInt16) (payload : Bytes) :
    ((Act.deliver seq payload).run e).2.session.WindowsSound := by
  rw [run_deliver]
  refine drainHeld ?_ _
  exact hs.frame rfl rfl rfl

/-- Accepting a payload stores its segment in the send ring and adds its entry to the queue. -/
theorem sendData (hs : e.session.WindowsSound) (payload : Bytes) :
    ((Act.sendData payload).run e).2.session.WindowsSound := by
  rcases run_sendData e payload with ⟨err, hrun⟩ |
    ⟨r, ring, queue, hdr, bytes, -, hr, hq, -, -, -, -, hrun⟩
  · rw [hrun]
    exact hs
  · rw [hrun]
    refine ⟨fun r' h ↦ ?_, hs.receiveRing, fun q h ↦ ?_⟩
    · cases h
      exact (hs.sendRing ring hr).store _ _
    · cases h
      exact (hs.queue queue hq).add _ _ _

theorem retransmitFired (hs : e.session.WindowsSound) (seq : UInt16) (h : Handle) :
    ((Act.retransmitFired seq h).run e).2.session.WindowsSound := by
  refine Act.retransmitFired_cases (motive := fun x ↦ x.session.WindowsSound) e seq h hs
    fun _ queue _ hq ↦ ⟨?_, fun _ h ↦ Session.WindowsSound.frame h rfl rfl rfl⟩
  -- whatever the outcome, the queue is the fired one
  exact ⟨hs.sendRing, hs.receiveRing, fun q h' ↦ by cases h'; exact (hs.queue queue hq).fire _ _ _ _⟩

/-- A segment arriving while connected: its acknowledgments move the send side, its payload is
delivered or held in the receive ring, and it is answered. -/
theorem segmentArrives (hs : e.session.WindowsSound) (c : Common) (acks : List UInt16)
    (payload : Bytes) : ((Act.segmentArrives c acks payload).run e).2.session.WindowsSound := by
  rw [run_segmentArrives]
  split
  · dsimp only
    have h₁ : (if c.flags.has .ack then ((Act.acknowledge c.ack).run e).2 else e).session.WindowsSound := by
      split
      · exact acknowledge hs c.ack
      · exact hs
    generalize (if c.flags.has .ack then ((Act.acknowledge c.ack).run e).2 else e) = e₁ at h₁ ⊢
    have h₂ : (if acks.isEmpty then e₁ else ((Act.acknowledgeEach acks).run e₁).2).session.WindowsSound := by
      split
      · exact h₁
      · exact acknowledgeEach h₁ acks
    generalize (if acks.isEmpty then e₁ else ((Act.acknowledgeEach acks).run e₁).2) = e₂ at h₂ ⊢
    split
    · exact h₂
    · refine sendAck ?_
      split
      · exact deliver h₂ _ _
      · split
        · rename_i ring hring
          split
          · exact h₂.withReceiveRing hring (fun hb ↦ hb.store _ _) rfl rfl rfl
          · exact h₂
        · exact h₂
  · exact sendAck hs

theorem nulArrives (hs : e.session.WindowsSound) (c : Common) :
    ((Act.nulArrives c).run e).2.session.WindowsSound := by
  rw [run_nulArrives]
  refine sendAck ?_
  split
  · exact acknowledge hs c.ack
  · exact hs

/-! ### Reactions to events -/

theorem onSyn (hs : e.session.WindowsSound) (c : Common) (config : Config) :
    ((Act.onSyn c config).run e).2.session.WindowsSound :=
  Act.onSyn_cases (motive := fun x ↦ x.session.WindowsSound) e c config
    (fun _ ↦ replyRst hs c)
    (fun _ _ _ ↦ enter (by exact hs.frame rfl rfl rfl) _)
    (fun _ _ _ ↦ sendAck (establish (by exact hs.frame rfl rfl rfl)))
    (fun _ ↦ reset (replyRst hs c))
    (fun _ _ _ ↦ sendAck (establish hs))
    (fun _ _ _ ↦ sendSyn hs _)
    (fun _ _ ↦ sendAck hs)
    (fun _ _ ↦ enter (replyRst hs c) _)
    (fun _ ↦ hs)

theorem onRst (hs : e.session.WindowsSound) : (Act.onRst.run e).2.session.WindowsSound :=
  Act.onRst_cases (motive := fun x ↦ x.session.WindowsSound) e (fun _ ↦ reset hs)
    (fun _ ↦ enter (sendRst hs) _) (fun _ ↦ enter hs _) (fun _ ↦ hs)

theorem onNul (hs : e.session.WindowsSound) (c : Common) :
    ((Act.onNul c).run e).2.session.WindowsSound :=
  Act.onNul_cases (motive := fun x ↦ x.session.WindowsSound) e c (fun _ ↦ replyRst hs c)
    (fun _ _ ↦ nulArrives (establish hs) c) (fun _ _ ↦ replyRst hs c) (fun _ ↦ nulArrives hs c)
    (fun _ ↦ hs)

theorem onEack (hs : e.session.WindowsSound) (c : Common) (acks : List UInt16) (payload : Bytes) :
    ((Act.onEack c acks payload).run e).2.session.WindowsSound :=
  Act.onEack_cases (motive := fun x ↦ x.session.WindowsSound) e c acks payload
    (fun _ ↦ replyRst hs c) (fun _ ↦ reset (replyRst hs c))
    (fun _ ↦ segmentArrives hs c acks payload) (fun _ ↦ hs)

theorem onAck (hs : e.session.WindowsSound) (c : Common) (payload : Bytes) :
    ((Act.onAck c payload).run e).2.session.WindowsSound :=
  Act.onAck_cases (motive := fun x ↦ x.session.WindowsSound) e c payload
    (fun _ ↦ replyRst hs c) (fun _ _ ↦ segmentArrives (establish hs) c [] payload)
    (fun _ _ ↦ replyRst hs c) (fun _ ↦ segmentArrives hs c [] payload) (fun _ ↦ hs)

theorem receive (hs : e.session.WindowsSound) (datagram : Bytes) :
    ((Act.receive datagram).run e).2.session.WindowsSound := by
  refine Act.receive_cases (motive := fun x ↦ x.session.WindowsSound) e datagram hs
    fun seg _ _ ↦ ?_
  unfold Act.onSegment
  split
  · exact onSyn hs _ _
  · exact onRst hs
  · exact onNul hs _
  · exact onAck hs _ _
  · exact onEack hs _ _ _

/-- The handshake wake-up of an opening session: a retry sends the SYN again, giving up resets. -/
theorem handshakeFired (hs : e.session.WindowsSound) (hd : Handle) (retry : Act Unit)
    (hr : ∀ e' : Endpoint, e'.session.WindowsSound → (retry.run e').2.session.WindowsSound) :
    ((do
      match ← Act.handshakeTimeout hd with
      | some true => retry
      | some false => Act.reset
      | none => pure () : Act Unit).run e).2.session.WindowsSound := by
  have h₁ := handshakeTimeout hs hd
  rw [run_bind]
  generalize (Act.handshakeTimeout hd).run e = p at h₁ ⊢
  obtain ⟨res, e₁⟩ := p
  rcases res with _ | ⟨_ | _⟩
  · exact h₁
  · exact reset h₁
  · exact hr e₁ h₁

theorem timerFired (hs : e.session.WindowsSound) (hd : Handle) (timer : Timer) :
    ((Act.timerFired hd timer).run e).2.session.WindowsSound :=
  Act.timerFired_cases (motive := fun x ↦ x.session.WindowsSound) e hd timer hs
    (fun seq _ _ _ ↦ retransmitFired hs seq hd)
    (fun seq _ _ _ ↦ enter (sendRst (retransmitFired hs seq hd)) _)
    (fun _ _ ↦ keepAliveFired hs hd)
    (fun _ _ ↦ handshakeFired hs hd _ fun _ h' ↦ sendSyn h' none)
    (fun _ _ ↦ handshakeFired hs hd _ fun _ h' ↦ by
      rw [run_bind, run_info]
      exact sendSyn h' _)
    (fun _ _ _ ↦ enter (by exact hs.frame rfl rfl rfl) _)

theorem connect (hs : e.session.WindowsSound) (iss : UInt16) :
    ((Act.connect iss).run e).2.session.WindowsSound :=
  Act.connect_cases (motive := fun x ↦ x.session.WindowsSound) e iss hs
    fun _ ↦ enter (by exact hs.frame rfl rfl rfl) _

theorem wait (hs : e.session.WindowsSound) (iss : UInt16) :
    ((Act.wait iss).run e).2.session.WindowsSound :=
  Act.wait_cases (motive := fun x ↦ x.session.WindowsSound) e iss hs
    fun _ ↦ enter (by exact hs.frame rfl rfl rfl) _

theorem close (hs : e.session.WindowsSound) : (Act.close.run e).2.session.WindowsSound :=
  Act.close_cases (motive := fun x ↦ x.session.WindowsSound) e hs (fun _ ↦ enter hs _)
    (fun _ ↦ enter (transmit hs _) _) (fun _ ↦ enter (sendRst hs) _) (fun _ ↦ enter (sendRst hs) _)

theorem send (hs : e.session.WindowsSound) (payload : Bytes) :
    ((Act.send payload).run e).2.session.WindowsSound :=
  Act.send_cases (motive := fun x ↦ x.session.WindowsSound) e payload hs
    fun _ ↦ sendData hs payload

/-- One event keeps the windows sound. -/
theorem handle (hs : e.session.WindowsSound) (ev : Event) : (e.handle ev).session.WindowsSound := by
  have h₀ : (e.prepare ev).session.WindowsSound := by
    rw [Endpoint.session_prepare]
    exact hs
  cases ev with
  | connect iss => exact connect h₀ iss
  | wait iss => exact wait h₀ iss
  | close => exact close h₀
  | invalidate => exact enter h₀ _
  | send payload =>
    simp only [Endpoint.handle, Event.act, run_bind, run_pure]
    exact send h₀ payload
  | receive datagram => exact receive h₀ datagram
  | fire hd timer => exact timerFired h₀ hd timer

end WindowsSound

end Session

namespace Endpoint

/-- A fresh session holds no windows. -/
theorem windowsSound_fresh {c : Config} {s : Session} (hs : Session.new c = .ok s) :
    s.WindowsSound := by
  obtain rfl := Session.eq_of_new hs
  exact .of_none rfl rfl rfl

/-- Every session a host can reach holds sound windows. -/
theorem Reachable.windowsSound {e : Endpoint} (h : e.Reachable) : e.session.WindowsSound := by
  induction h with
  | fresh hs => exact windowsSound_fresh hs
  | handle ev _ ih => exact ih.handle ev

end Endpoint

end ReliableDatagram
