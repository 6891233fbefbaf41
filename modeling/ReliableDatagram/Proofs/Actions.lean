import ReliableDatagram.Proofs.Retransmit
/-!
# What each action does to the endpoint

An action runs in the state monad over the endpoint. This module gives, for the actions of the
engine, the endpoint each one leaves behind, written as an update of the endpoint it found, so
that no later proof unfolds the monad or the action's body.

The first group are the equations of the monad's primitives (`run_bind`, `run_modifySession`,
`run_schedule`, ...): all hold by `rfl`, and with them the body of an action rewrites to an
explicit endpoint. A read of the session is left unrewritten until the end of such a proof,
because the decision procedure of an `if` that tests what was read still mentions the read.

An action that only speaks to the peer changes the effects and the idle flag and nothing else
(`Spoken`); the actions on wake-ups name what they cancel and arm; the lifecycle actions are
given per state.

The loops and the branching steps of the data path come with their own induction and case
principles (`acknowledgeEach_induction`, `drainHeld_induction`, `acknowledge_cases`,
`retransmitFired_cases`), and so do the handlers of the five kinds of segment (`onSyn_cases`,
`onRst_cases`, `onNul_cases`, `onAck_cases`, `onEack_cases`), the arrival of a datagram
(`receive_cases`), the delivery of a wake-up (`timerFired_cases`) and the intents
(`connect_cases`, `wait_cases`, `close_cases`, `send_cases`): a property holds of the endpoint
such an action leaves when each branch of its body gives it, and each branch knows the state
and the tests that led to it, so a module that follows one property through every action proves
the branches only.
-/

namespace ReliableDatagram

namespace Act

/-! ### The monad's primitives -/

section Primitives

variable (e : Endpoint)

theorem run_bind {α β : Type} (x : Act α) (f : α → Act β) :
    (x >>= f).run e = (f (x.run e).1).run (x.run e).2 := rfl

theorem run_pure {α : Type} (a : α) : (pure a : Act α).run e = (a, e) := rfl

theorem run_ite {α : Type} (c : Prop) [Decidable c] (x y : Act α) :
    (if c then x else y).run e = if c then x.run e else y.run e := by
  split <;> rfl

theorem run_session : session.run e = (e.session, e) := rfl

theorem run_info : info.run e = (e.session.info, e) := rfl

theorem run_modifySession (f : Session → Session) :
    (modifySession f).run e = ((), { e with session := f e.session }) := rfl

theorem run_modifyInfo (f : Info → Info) :
    (modifyInfo f).run e = ((), { e with session := { e.session with info := f e.session.info } }) :=
  rfl

theorem run_modifyTimers (f : Timers → Timers) :
    (modifyTimers f).run e =
      ((), { e with session := { e.session with timers := f e.session.timers } }) := rfl

theorem run_emit (x : Effect) : (emit x).run e = ((), { e with effects := e.effects ++ [x] }) :=
  rfl

theorem run_schedule (delay : Nat) (timer : Timer) :
    (schedule delay timer).run e =
      (⟨e.schedule.issued + 1⟩, { e with schedule := (e.schedule.add delay timer).2 }) := rfl

theorem run_cancel (h : Option Handle) :
    (cancel h).run e = ((), { e with schedule := e.schedule.cancel? h }) := rfl

theorem run_withSchedule {α : Type} (f : Schedule → α × Schedule) :
    (withSchedule f).run e = ((f e.schedule).1, { e with schedule := (f e.schedule).2 }) := rfl

end Primitives

/-! ### Speaking to the peer -/

/-- `e'` is `e` after sending: the same schedule, and the same session but for the idle
flag. -/
def Spoken (e e' : Endpoint) : Prop :=
  e'.schedule = e.schedule ∧
    e'.session = { e.session with timers := { e.session.timers with idle := e'.session.timers.idle } }

namespace Spoken

theorem refl (e : Endpoint) : Spoken e e := ⟨rfl, rfl⟩

theorem trans {e₁ e₂ e₃ : Endpoint} (h₁ : Spoken e₁ e₂) (h₂ : Spoken e₂ e₃) : Spoken e₁ e₃ := by
  obtain ⟨hs₁, he₁⟩ := h₁
  obtain ⟨hs₂, he₂⟩ := h₂
  refine ⟨hs₂.trans hs₁, ?_⟩
  rw [he₂, he₁]

end Spoken

section Output

variable (e : Endpoint)

theorem run_transmit (h : Header) :
    ((transmit h).run e).2 =
      match h.encode [] with
      | .ok (_, bytes) => { e with
          effects := e.effects ++ [.transmit bytes]
          session := { e.session with timers := { e.session.timers with idle := false } } }
      | .error _ => e := by
  unfold transmit
  cases h.encode [] with
  | ok p => rfl
  | error err => rfl

theorem spoken_transmit (h : Header) : Spoken e ((transmit h).run e).2 := by
  rw [run_transmit]
  split
  · exact ⟨rfl, rfl⟩
  · exact Spoken.refl e

theorem run_sendSyn (ack : Option UInt16) :
    (sendSyn ack).run e =
      (transmit (Header.buildSyn e.session.info.config e.session.info.sendInitial ack)).run e := by
  rw [sendSyn, run_bind, run_info]

theorem run_sendRst :
    sendRst.run e =
      (transmit (Header.buildRst 0 e.session.info.sendNext (some e.session.info.receiveAcked))).run e := by
  rw [sendRst, run_bind, run_info]

theorem run_sendAck :
    sendAck.run e =
      (transmit
        (if ((e.session.receiveRing.map (·.enumerate (eackLimit e.session.info.remote))).getD []).isEmpty
        then Header.buildAck e.session.info.sendNext e.session.info.receiveAcked
        else Header.buildEack e.session.info.sendNext e.session.info.receiveAcked
          ((e.session.receiveRing.map (·.enumerate (eackLimit e.session.info.remote))).getD []))).run e := by
  rw [sendAck, run_bind, run_session]

theorem run_replyRst (c : Common) :
    (replyRst c).run e =
      match rstFor c with
      | some h => (transmit h).run e
      | none => ((), e) := by
  unfold replyRst
  cases rstFor c with
  | some h => rfl
  | none => rfl

theorem spoken_sendSyn (ack : Option UInt16) : Spoken e ((sendSyn ack).run e).2 := by
  rw [run_sendSyn]
  exact spoken_transmit e _

theorem spoken_sendRst : Spoken e (sendRst.run e).2 := by
  rw [run_sendRst]
  exact spoken_transmit e _

theorem spoken_sendAck : Spoken e (sendAck.run e).2 := by
  rw [run_sendAck]
  exact spoken_transmit e _

theorem spoken_replyRst (c : Common) : Spoken e ((replyRst c).run e).2 := by
  rw [run_replyRst]
  split
  · exact spoken_transmit e _
  · exact Spoken.refl e

end Output

/-! ### Wake-ups -/

section Wakeups

variable (e : Endpoint)

theorem run_cancelHandshake :
    (cancelHandshake.run e).2 = { e with
      schedule := e.schedule.cancel? e.session.timers.handshake
      session := { e.session with timers := { e.session.timers with handshake := none } } } := rfl

theorem run_rearmHandshake :
    (rearmHandshake.run e).2 = { e with
      schedule := ((e.schedule.cancel? e.session.timers.handshake).add
        e.session.info.config.retransmissionDelay .handshake).2
      session := { e.session with
        timers := { e.session.timers with handshake := some ⟨e.schedule.issued + 1⟩ } } } := by
  simp only [rearmHandshake, cancelHandshake, run_bind, run_session, run_cancel,
    run_modifyTimers, run_info, run_schedule, Schedule.issued_cancel?]

theorem run_armHandshake :
    (armHandshake.run e).2 =
      (rearmHandshake.run { e with
        session := { e.session with timers := { e.session.timers with handshakeCount := 0 } } }).2 :=
  rfl

/-- A handshake wake-up whose handle is not the one held changes nothing; the one held is
given up when the retries are used up, and otherwise re-armed with one more retry counted. -/
theorem run_handshakeTimeout (h : Handle) :
    (handshakeTimeout h).run e =
      if e.session.timers.handshake ≠ some h then (none, e)
      else if e.session.timers.handshakeCount ≥ e.session.info.config.maxRetransmissions then
        (some false, { e with
          session := { e.session with timers := { e.session.timers with handshake := none } } })
      else (some true, (rearmHandshake.run { e with
          session := { e.session with timers := { e.session.timers with
            handshake := none, handshakeCount := e.session.timers.handshakeCount + 1 } } }).2) := by
  simp only [handshakeTimeout, run_bind, run_ite, run_modifyTimers, run_pure]
  rfl

theorem run_armKeepAlive :
    (armKeepAlive.run e).2 =
      match e.session.info.remote with
      | none => e
      | some r =>
        if r.nullSegmentTimeout = 0 then e
        else { e with
          schedule := (e.schedule.add r.nullSegmentDelay .keepAlive).2
          session := { e.session with timers := { e.session.timers with
            idle := true, keepAlive := some ⟨e.schedule.issued + 1⟩ } } } := by
  cases hr : e.session.info.remote with
  | none => simp only [armKeepAlive, run_bind, run_info, hr]; rfl
  | some r =>
    simp only [armKeepAlive, run_bind, run_info, hr, run_ite, run_pure, run_modifyTimers,
      run_schedule]
    split <;> rfl

theorem run_cancelKeepAlive :
    (cancelKeepAlive.run e).2 = { e with
      schedule := e.schedule.cancel? e.session.timers.keepAlive
      session := { e.session with timers := { e.session.timers with keepAlive := none } } } := rfl

/-- A keep-alive wake-up whose handle is not the one held changes nothing; the one held sends a
NUL after an idle period and is armed again. -/
theorem run_keepAliveFired (h : Handle) :
    ((keepAliveFired h).run e).2 =
      if e.session.timers.keepAlive ≠ some h then e
      else
        let e₁ : Endpoint := { e with
          session := { e.session with timers := { e.session.timers with keepAlive := none } } }
        (armKeepAlive.run (if e.session.timers.idle then
          ((transmit (Header.buildNul e.session.info.sendNext e.session.info.receiveAcked)).run e₁).2
          else e₁)).2 := by
  by_cases hk : e.session.timers.keepAlive = some h
  · by_cases hi : e.session.timers.idle
    · simp only [keepAliveFired, run_bind, run_session, run_modifyTimers, hk, hi, ne_eq,
        not_true_eq_false, ↓reduceIte]
    · simp only [keepAliveFired, run_bind, run_session, run_modifyTimers, hk, hi, ne_eq,
        not_true_eq_false, ↓reduceIte, Bool.false_eq_true]
  · simp only [keepAliveFired, run_bind, run_session, hk, ne_eq, not_false_eq_true, ↓reduceIte]
    rfl

theorem run_cancelDisconnect :
    (cancelDisconnect.run e).2 = { e with
      schedule := e.schedule.cancel? e.session.timers.disconnect
      session := { e.session with timers := { e.session.timers with disconnect := none } } } := rfl

theorem run_armDisconnect :
    (armDisconnect.run e).2 = { e with
      schedule := ((e.schedule.cancel? e.session.timers.disconnect).add disconnectDelay .disconnect).2
      session := { e.session with
        timers := { e.session.timers with disconnect := some ⟨e.schedule.issued + 1⟩ } } } := by
  simp only [armDisconnect, cancelDisconnect, run_bind, run_session, run_cancel,
    run_modifyTimers, run_schedule, Schedule.issued_cancel?]

theorem run_cancelRetransmissions :
    (cancelRetransmissions.run e).2 =
      match e.session.retransmit with
      | some q => { e with
          schedule := (q.setBase e.schedule q.base).2
          session := { e.session with retransmit := some (q.setBase e.schedule q.base).1 } }
      | none => e := by
  cases hq : e.session.retransmit with
  | none => simp only [cancelRetransmissions, run_bind, run_session, hq]; rfl
  | some q => simp only [cancelRetransmissions, run_bind, run_session, hq]; rfl

theorem run_cancelAllTimers :
    (cancelAllTimers.run e).2 =
      (cancelDisconnect.run (cancelKeepAlive.run (cancelHandshake.run
        (cancelRetransmissions.run e).2).2).2).2 := rfl

end Wakeups

/-! ### The lifecycle -/

section Lifecycle

variable (e : Endpoint)

theorem run_openWindows :
    (openWindows.run e).2 = { e with
      schedule := ((RetransmitQueue.new (e.session.info.remote.getD e.session.info.config).maxOutstanding).setBase
        e.schedule e.session.info.sendNext).2
      session := { e.session with
        sendRing := some ((SegmentBuffer.new (e.session.info.remote.getD e.session.info.config).maxSegmentSize
          (e.session.info.remote.getD e.session.info.config).maxOutstanding).setBase e.session.info.sendNext)
        retransmit := some ((RetransmitQueue.new
          (e.session.info.remote.getD e.session.info.config).maxOutstanding).setBase
          e.schedule e.session.info.sendNext).1
        receiveRing := some ((SegmentBuffer.new e.session.info.config.maxSegmentSize
          e.session.info.config.maxOutstanding).setBase (e.session.info.receiveAcked + 2)) } } := rfl

theorem run_dropWindows :
    (dropWindows.run e).2 =
      let e₁ := (cancelRetransmissions.run e).2
      { e₁ with session := { e₁.session with
          sendRing := none, retransmit := none, receiveRing := none
          info := { e₁.session.info with remote := none } } } := rfl

theorem run_leave_closed : (leave .closed).run e = ((), e) := rfl

theorem run_leave_waiting : (leave .waiting).run e = ((), e) := rfl

theorem run_leave_initiating : (leave .initiating).run e = cancelHandshake.run e := rfl

theorem run_leave_connecting : (leave .connecting).run e = cancelHandshake.run e := rfl

theorem run_leave_connected :
    ((leave .connected).run e).2 = (cancelKeepAlive.run (cancelRetransmissions.run e).2).2 := rfl

theorem run_leave_disconnecting : (leave .disconnecting).run e = cancelDisconnect.run e := rfl

theorem run_arrive_closed : ((arrive .closed).run e).2 = (dropWindows.run (cancelAllTimers.run e).2).2 :=
  rfl

theorem run_arrive_waiting :
    ((arrive .waiting).run e).2 = (dropWindows.run (cancelAllTimers.run e).2).2 := rfl

theorem run_arrive_initiating :
    ((arrive .initiating).run e).2 = (armHandshake.run ((sendSyn none).run e).2).2 := by
  rw [arrive, run_bind]

theorem run_arrive_connecting :
    ((arrive .connecting).run e).2 =
      (armHandshake.run ((sendSyn (some e.session.info.receiveAcked)).run e).2).2 := by
  rw [arrive, run_bind, run_info, run_bind]

theorem run_arrive_connected :
    ((arrive .connected).run e).2 =
      if e.session.info.passive then (openWindows.run e).2
      else (armKeepAlive.run (openWindows.run e).2).2 := by
  cases hp : e.session.info.passive
  · simp only [arrive, run_bind, run_info, run_openWindows, hp, Bool.not_false, ↓reduceIte,
      Bool.false_eq_true]
  · simp only [arrive, run_bind, run_info, run_openWindows, hp, Bool.not_true, ↓reduceIte,
      Bool.false_eq_true]
    rfl

theorem run_arrive_disconnecting : (arrive .disconnecting).run e = armDisconnect.run e := rfl

/-- Entering the state the session is in changes nothing; entering another leaves the old
state, switches, arrives in the new one and reports it. -/
theorem run_enter (next : State) :
    ((enter next).run e).2 =
      if e.session.state = next then e
      else
        let e₁ := ((leave e.session.state).run e).2
        let e₂ := ((arrive next).run { e₁ with session := { e₁.session with state := next } }).2
        { e₂ with effects := e₂.effects ++ [.entered next] } := by
  by_cases h : e.session.state = next
  · simp only [enter, run_bind, run_session, h, ↓reduceIte]
    rfl
  · simp only [enter, run_bind, run_session, h, ↓reduceIte]
    rfl

theorem run_reset :
    (reset.run e).2 = ((enter (if e.session.info.passive then .waiting else .closed)).run e).2 := rfl

theorem run_start (iss : UInt16) (passive : Bool) :
    ((start iss passive).run e).2 = { e with session := { e.session with info := { e.session.info with
      sendInitial := iss, sendUnacked := iss, sendNext := iss + 1, remote := none, passive } } } :=
  rfl

theorem run_establish :
    (establish.run e).2 =
      ((enter .connected).run { e with session := { e.session with info := { e.session.info with
        sendUnacked := e.session.info.sendInitial + 1 } } }).2 := rfl

theorem run_acknowledgesSyn (c : Common) :
    (acknowledgesSyn c).run e = (c.flags.has .ack && c.ack == e.session.info.sendInitial, e) := rfl

/-- A usable configuration is recorded with the peer's initial number; an unusable one is
answered with an RST and the attempt is given up. -/
theorem run_acceptRemote (c : Common) (config : Config) :
    (acceptRemote c config).run e =
      if config.isValid then
        (true, { e with session := { e.session with info := { e.session.info with
          remote := some config, receiveInitial := c.seq, receiveAcked := c.seq } } })
      else (false, (reset.run ((replyRst c).run e).2).2) := by
  simp only [acceptRemote, run_bind, run_ite, run_modifyInfo, run_pure]

end Lifecycle

/-! ### Moving data -/

section Transfer

variable (e : Endpoint)

/-- A payload is either refused, with nothing changed, or accepted: stored in the send ring,
given a retransmission entry, transmitted, and numbered `sendNext`, which moves on by one. -/
theorem run_sendData (payload : Bytes) :
    (∃ err, (sendData payload).run e = (.error err, e)) ∨
    ∃ r ring queue hdr bytes, e.session.info.remote = some r ∧ e.session.sendRing = some ring ∧
      e.session.retransmit = some queue ∧ payload ≠ [] ∧
      payload.length ≤ r.maxSegmentSize.toNat - ackHeaderLength ∧ e.session.canSend = true ∧
      (Header.buildData e.session.info.sendNext e.session.info.receiveAcked
        payload.length.toUInt16).encode payload = .ok (hdr, bytes) ∧
      (sendData payload).run e = (.ok (), { e with
        schedule := (queue.add e.schedule e.session.info.sendNext
          e.session.info.config.retransmissionDelay).2
        effects := e.effects ++ [.transmit bytes] ++ [.accepted e.session.info.sendNext]
        session := { e.session with
          sendRing := some (ring.store e.session.info.sendNext bytes).2
          retransmit := some (queue.add e.schedule e.session.info.sendNext
            e.session.info.config.retransmissionDelay).1
          timers := { e.session.timers with idle := false }
          info := { e.session.info with sendNext := e.session.info.sendNext + 1 } } }) := by
  -- unfolding by `rw` keeps the kernel's check of each branch small; `simp` unfolding the
  -- whole body costs seconds per branch
  rw [sendData, run_bind, run_session]
  cases hr : e.session.info.remote with
  | none => exact .inl ⟨_, by simp only [hr]; rfl⟩
  | some r =>
  by_cases hp : payload.isEmpty = true
  · exact .inl ⟨_, by simp only [hr, hp, ↓reduceIte]; rfl⟩
  by_cases hl : payload.length > r.maxSegmentSize.toNat - ackHeaderLength
  · exact .inl ⟨_, by simp only [hr, hp, hl, ↓reduceIte, Bool.false_eq_true]; rfl⟩
  by_cases hc : e.session.canSend = true
  swap
  · exact .inl ⟨_, by
      simp only [hr, hp, hl, hc, ↓reduceIte, Bool.false_eq_true, Bool.not_false]; rfl⟩
  cases hring : e.session.sendRing with
  | none => exact .inl ⟨_, by
      simp only [hr, hp, hl, hc, ↓reduceIte, Bool.false_eq_true, Bool.not_true]; rfl⟩
  | some ring =>
  cases hq : e.session.retransmit with
  | none => exact .inl ⟨_, by
      simp only [hr, hp, hl, hc, ↓reduceIte, Bool.false_eq_true, Bool.not_true]; rfl⟩
  | some queue =>
  cases henc : (Header.buildData e.session.info.sendNext e.session.info.receiveAcked
      payload.length.toUInt16).encode payload with
  | error err => exact .inl ⟨_, by
      simp only [hr, hp, hl, hc, henc, ↓reduceIte, Bool.false_eq_true,
        Bool.not_true]; rfl⟩
  | ok res =>
    obtain ⟨hdr, bytes⟩ := res
    refine .inr ⟨r, ring, queue, hdr, bytes, rfl, rfl, rfl, ?_, Nat.le_of_not_lt hl, hc, rfl, ?_⟩
    · simpa using hp
    · simp only [hr, hp, hl, hc, henc, ↓reduceIte, Bool.false_eq_true, Bool.not_true]
      simp only [hr, run_bind, run_withSchedule, run_modifySession, run_emit, run_modifyTimers,
        run_modifyInfo, run_pure]

theorem run_inReceiveWindow (c : Common) :
    (inReceiveWindow c).run e =
      (Seq.inWindow c.seq (e.session.info.receiveAcked + 1)
        e.session.info.config.maxOutstanding.toUInt16, e) := rfl

/-- A cumulative acknowledgment counts when it acknowledges something sent and not yet
acknowledged: the send window then moves past it. -/
theorem run_acknowledge {ring : SegmentBuffer} {queue : RetransmitQueue}
    (hr : e.session.sendRing = some ring) (hq : e.session.retransmit = some queue) (ack : UInt16) :
    ((acknowledge ack).run e).2 =
      if Seq.offset (ack + 1) ring.base > Seq.offset e.session.info.sendNext ring.base ∨
          Seq.offset (ack + 1) ring.base = 0 then e
      else { e with
        schedule := (queue.advance e.schedule (Seq.offset (ack + 1) ring.base)).2
        session := { e.session with
          sendRing := some (ring.advanceBase (Seq.offset (ack + 1) ring.base))
          retransmit := some (queue.advance e.schedule (Seq.offset (ack + 1) ring.base)).1
          info := { e.session.info with sendUnacked := ack + 1 } } } := by
  by_cases h₁ : Seq.offset (ack + 1) ring.base > Seq.offset e.session.info.sendNext ring.base
  · simp only [acknowledge, run_bind, run_session, hr, hq, h₁, true_or, ↓reduceIte]
    rfl
  by_cases h₂ : Seq.offset (ack + 1) ring.base = 0
  · simp only [acknowledge, run_bind, run_session, hr, hq, h₂, or_true, ↓reduceIte]
    rfl
  · simp only [acknowledge, run_bind, run_session, hr, hq, h₁, h₂, or_self, ↓reduceIte,
      run_withSchedule, run_modifySession]

theorem run_acknowledge_of_none (h : e.session.sendRing = none ∨ e.session.retransmit = none)
    (ack : UInt16) : ((acknowledge ack).run e).2 = e := by
  rcases h with h | h
  · simp only [acknowledge, run_bind, run_session, h]
    rfl
  · cases hr : e.session.sendRing <;> simp only [acknowledge, run_bind, run_session, h, hr] <;> rfl

/-- A property of the endpoint a cumulative acknowledgment leaves holds when it holds of `e`
and of the endpoint whose send window moved past an acknowledgment that counts. -/
theorem acknowledge_cases {motive : Endpoint → Prop} (ack : UInt16) (same : motive e)
    (moved : ∀ ring queue, e.session.sendRing = some ring → e.session.retransmit = some queue →
      ¬(Seq.offset (ack + 1) ring.base > Seq.offset e.session.info.sendNext ring.base ∨
        Seq.offset (ack + 1) ring.base = 0) →
      motive { e with
        schedule := (queue.advance e.schedule (Seq.offset (ack + 1) ring.base)).2
        session := { e.session with
          sendRing := some (ring.advanceBase (Seq.offset (ack + 1) ring.base))
          retransmit := some (queue.advance e.schedule (Seq.offset (ack + 1) ring.base)).1
          info := { e.session.info with sendUnacked := ack + 1 } } }) :
    motive ((acknowledge ack).run e).2 := by
  cases hs : e.session.sendRing with
  | none => rwa [run_acknowledge_of_none e (.inl hs)]
  | some ring =>
  cases hq : e.session.retransmit with
  | none => rwa [run_acknowledge_of_none e (.inr hq)]
  | some queue =>
    rw [run_acknowledge e hs hq]
    split
    · exact same
    · exact moved ring queue hs hq ‹_›

theorem run_acknowledgeEach_nil : ((acknowledgeEach []).run e).2 = e := rfl

/-- Each number an extended acknowledgment names releases its segment, if that is in use. -/
theorem run_acknowledgeEach_cons {ring : SegmentBuffer} {queue : RetransmitQueue}
    (hr : e.session.sendRing = some ring) (hq : e.session.retransmit = some queue)
    (seq : UInt16) (rest : List UInt16) :
    ((acknowledgeEach (seq :: rest)).run e).2 =
      ((acknowledgeEach rest).run (if ring.isInUse seq then { e with
        schedule := (queue.remove e.schedule seq).2
        session := { e.session with
          sendRing := some (ring.unmark seq)
          retransmit := some (queue.remove e.schedule seq).1 } } else e)).2 := by
  by_cases hu : ring.isInUse seq = true
  · simp only [acknowledgeEach, run_bind, run_session, hr, hq, hu, ↓reduceIte, run_withSchedule,
      run_modifySession]
  · simp only [acknowledgeEach, run_bind, run_session, hr, hq, hu]
    rfl

theorem run_acknowledgeEach_of_none (h : e.session.sendRing = none ∨ e.session.retransmit = none)
    (acks : List UInt16) : ((acknowledgeEach acks).run e).2 = e := by
  cases acks with
  | nil => rfl
  | cons seq rest =>
    rcases h with h | h
    · simp only [acknowledgeEach, run_bind, run_session, h]
      rfl
    · cases hr : e.session.sendRing <;> simp only [acknowledgeEach, run_bind, run_session, h, hr] <;>
        rfl

/-- Induction along an extended acknowledgment: a property of `e` that each release of a
segment in use keeps holds of the endpoint the whole list leaves. -/
theorem acknowledgeEach_induction {motive : Endpoint → Prop} (acks : List UInt16) (start : motive e)
    (release : ∀ e₁ ring queue seq, e₁.session.sendRing = some ring →
      e₁.session.retransmit = some queue → ring.isInUse seq = true → motive e₁ →
      motive { e₁ with
        schedule := (queue.remove e₁.schedule seq).2
        session := { e₁.session with
          sendRing := some (ring.unmark seq)
          retransmit := some (queue.remove e₁.schedule seq).1 } }) :
    motive ((acknowledgeEach acks).run e).2 := by
  induction acks generalizing e with
  | nil => exact start
  | cons seq rest ih =>
    cases hs : e.session.sendRing with
    | none => rwa [run_acknowledgeEach_of_none e (.inl hs)]
    | some ring =>
    cases hq : e.session.retransmit with
    | none => rwa [run_acknowledgeEach_of_none e (.inr hq)]
    | some queue =>
      rw [run_acknowledgeEach_cons e hs hq]
      apply ih
      split
      · exact release e ring queue seq hs hq ‹_› start
      · exact start

theorem run_drainHeld_zero : ((drainHeld 0).run e).2 = e := rfl


theorem run_drainHeld_of_none (h : e.session.receiveRing = none) (fuel : Nat) :
    ((drainHeld fuel).run e).2 = e := by
  cases fuel with
  | zero => rfl
  | succ fuel =>
    simp only [drainHeld, run_bind, run_session, h]
    rfl

/-- The held segment after the last delivered number is delivered, and the window moves on. -/
theorem run_drainHeld_of_inUse {ring : SegmentBuffer} (hr : e.session.receiveRing = some ring)
    (hu : ring.isInUse (e.session.info.receiveAcked + 1) = true) {payload : Bytes}
    (hp : ring.slot (e.session.info.receiveAcked + 1) = some payload) (fuel : Nat) :
    ((drainHeld (fuel + 1)).run e).2 =
      ((drainHeld fuel).run { e with
        effects := e.effects ++ [.deliver payload]
        session := { e.session with
          receiveRing := some (ring.advanceBase 1)
          info := { e.session.info with receiveAcked := e.session.info.receiveAcked + 1 } } }).2 := by
  simp only [drainHeld, run_bind, run_session, hr, hu, hp, ↓reduceIte, run_modifySession,
    run_modifyInfo, run_emit]

/-- A gap after the last delivered number ends the run; the window moves past the gap. -/
theorem run_drainHeld_of_not_inUse {ring : SegmentBuffer} (hr : e.session.receiveRing = some ring)
    (hu : ring.isInUse (e.session.info.receiveAcked + 1) = false) (fuel : Nat) :
    ((drainHeld (fuel + 1)).run e).2 =
      { e with session := { e.session with receiveRing := some (ring.advanceBase 1) } } := by
  simp only [drainHeld, run_bind, run_session, hr, hu, ↓reduceIte, run_modifySession,
    Bool.false_eq_true]
  rfl

/-- Induction along the delivery loop: a property of `e` that delivering the next held segment
keeps, and that moving the window past a gap gives, holds of the endpoint the loop leaves,
whatever its fuel. -/
theorem drainHeld_induction {motive : Endpoint → Prop} (fuel : Nat) (start : motive e)
    (deliver : ∀ e₁ ring payload, e₁.session.receiveRing = some ring →
      ring.isInUse (e₁.session.info.receiveAcked + 1) = true →
      ring.slot (e₁.session.info.receiveAcked + 1) = some payload → motive e₁ →
      motive { e₁ with
        effects := e₁.effects ++ [.deliver payload]
        session := { e₁.session with
          receiveRing := some (ring.advanceBase 1)
          info := { e₁.session.info with receiveAcked := e₁.session.info.receiveAcked + 1 } } })
    (gap : ∀ e₁ ring, e₁.session.receiveRing = some ring →
      ring.isInUse (e₁.session.info.receiveAcked + 1) = false → motive e₁ →
      motive { e₁ with session := { e₁.session with receiveRing := some (ring.advanceBase 1) } }) :
    motive ((drainHeld fuel).run e).2 := by
  induction fuel generalizing e with
  | zero => exact start
  | succ fuel ih =>
    cases hr : e.session.receiveRing with
    | none => rwa [run_drainHeld_of_none e hr]
    | some ring =>
      cases hu : ring.isInUse (e.session.info.receiveAcked + 1) with
      | false =>
        rw [run_drainHeld_of_not_inUse e hr hu]
        exact gap e ring hr hu start
      | true =>
        obtain ⟨p, hp⟩ := SegmentBuffer.exists_slot_of_isInUse hu
        rw [run_drainHeld_of_inUse e hr hu hp]
        exact ih _ (deliver e ring p hr hu hp start)

theorem run_deliver (seq : UInt16) (payload : Bytes) :
    ((deliver seq payload).run e).2 =
      ((drainHeld ((e.session.receiveRing.map (·.capacity)).getD 0 + 1)).run { e with
        effects := e.effects ++ [.deliver payload]
        session := { e.session with info := { e.session.info with receiveAcked := seq } } }).2 := rfl

/-- A retransmission wake-up is handed to the queue: a due entry whose segment is still in use
and has retries left is resent byte for byte; one that has run out is dropped, and the
session is told whether a segment still in use was lost. -/
theorem run_retransmitFired {ring : SegmentBuffer} {queue : RetransmitQueue}
    (hr : e.session.sendRing = some ring) (hq : e.session.retransmit = some queue)
    (seq : UInt16) (h : Handle) :
    let fired := queue.fire e.schedule seq h fun x ↦
      decide (x.transmissions < e.session.info.config.maxRetransmissions) && ring.isInUse seq
    let e₁ : Endpoint := { e with
      schedule := fired.2.2
      session := { e.session with retransmit := some fired.2.1 } }
    (retransmitFired seq h).run e =
      match fired.1 with
      | .rescheduled => (true, { e₁ with
          effects := e₁.effects ++ [.transmit ((ring.slot seq).getD [])]
          session := { e₁.session with timers := { e₁.session.timers with idle := false } } })
      | .stale => (true, e₁)
      | .exhausted => (!ring.isInUse seq, e₁) := by
  intro fired e₁
  simp only [retransmitFired, run_bind]
  rw [run_session]
  simp only [hr, hq, run_bind, run_withSchedule, run_modifySession]
  cases fired.1 <;> simp only [run_bind, run_emit, run_modifyTimers, run_pure, e₁, fired, hr]

theorem run_retransmitFired_of_none (h : e.session.sendRing = none ∨ e.session.retransmit = none)
    (seq : UInt16) (hd : Handle) : (retransmitFired seq hd).run e = (true, e) := by
  rcases h with h | h
  · simp only [retransmitFired, run_bind, run_session, h]
    rfl
  · cases hr : e.session.sendRing <;> simp only [retransmitFired, run_bind, run_session, h, hr] <;>
      rfl

/-- A property of the endpoint a retransmission wake-up leaves holds when it holds of `e`, of the
endpoint whose queue took the wake-up, whatever its outcome, and of that endpoint once it has
resent the segment the send ring keeps, when the queue rescheduled the entry. -/
theorem retransmitFired_cases {motive : Endpoint → Prop} (seq : UInt16) (h : Handle) (same : motive e)
    (taken : ∀ ring queue, e.session.sendRing = some ring → e.session.retransmit = some queue →
      let fired := queue.fire e.schedule seq h fun x ↦
        decide (x.transmissions < e.session.info.config.maxRetransmissions) && ring.isInUse seq
      let e₁ : Endpoint := { e with
        schedule := fired.2.2
        session := { e.session with retransmit := some fired.2.1 } }
      motive e₁ ∧ (fired.1 = .rescheduled → motive e₁ → motive { e₁ with
        effects := e₁.effects ++ [.transmit ((ring.slot seq).getD [])]
        session := { e₁.session with timers := { e₁.session.timers with idle := false } } })) :
    motive ((retransmitFired seq h).run e).2 := by
  cases hs : e.session.sendRing with
  | none =>
    rw [run_retransmitFired_of_none e (.inl hs)]
    exact same
  | some ring =>
  cases hq : e.session.retransmit with
  | none =>
    rw [run_retransmitFired_of_none e (.inr hq)]
    exact same
  | some queue =>
    obtain ⟨hdropped, hresent⟩ := taken ring queue hs hq
    rw [run_retransmitFired e hs hq seq h]
    dsimp only
    split
    · exact hresent ‹_› hdropped
    · exact hdropped
    · exact hdropped

end Transfer

/-! ### Arrivals -/

section Arrivals

variable (e : Endpoint)

/-- An RST gives up an opening attempt, makes a connected session answer with its own RST and
start the grace period, ends the grace period, and is ignored while closed or waiting. -/
theorem onRst_cases {motive : Endpoint → Prop}
    (abandoned : e.session.state = .initiating ∨ e.session.state = .connecting →
      motive (reset.run e).2)
    (hungUp : e.session.state = .connected →
      motive ((enter .disconnecting).run (sendRst.run e).2).2)
    (finished : e.session.state = .disconnecting → motive ((enter .closed).run e).2)
    (ignored : e.session.state = .closed ∨ e.session.state = .waiting → motive e) :
    motive (onRst.run e).2 := by
  unfold onRst
  rw [run_bind, run_session]
  cases hst : e.session.state with
  | initiating => exact abandoned (.inl hst)
  | connecting => exact abandoned (.inr hst)
  | connected =>
    rw [run_bind]
    exact hungUp hst
  | disconnecting => exact finished hst
  | closed => exact ignored (.inl hst)
  | waiting => exact ignored (.inr hst)

/-- A NUL is answered with an RST while closed or waiting; while connecting it completes the
handshake and is taken when it acknowledges our SYN, and is answered with an RST otherwise; it
is taken while connected and ignored while initiating or disconnecting. -/
theorem onNul_cases {motive : Endpoint → Prop} (c : Common)
    (stray : e.session.state = .closed ∨ e.session.state = .waiting →
      motive ((replyRst c).run e).2)
    (established : e.session.state = .connecting →
      (c.flags.has .ack && c.ack == e.session.info.sendInitial) = true →
      motive ((nulArrives c).run (establish.run e).2).2)
    (refused : e.session.state = .connecting →
      (c.flags.has .ack && c.ack == e.session.info.sendInitial) = false →
      motive ((replyRst c).run e).2)
    (arrived : e.session.state = .connected → motive ((nulArrives c).run e).2)
    (ignored : e.session.state = .initiating ∨ e.session.state = .disconnecting → motive e) :
    motive ((onNul c).run e).2 := by
  unfold onNul
  rw [run_bind, run_session]
  cases hst : e.session.state with
  | closed => exact stray (.inl hst)
  | waiting => exact stray (.inr hst)
  | connecting =>
    rw [run_bind, run_acknowledgesSyn]
    dsimp only
    by_cases hsyn : (c.flags.has .ack && c.ack == e.session.info.sendInitial) = true
    · rw [if_pos hsyn, run_bind]
      exact established hst hsyn
    · rw [if_neg hsyn]
      exact refused hst (Bool.eq_false_iff.2 hsyn)
  | connected => exact arrived hst
  | initiating => exact ignored (.inl hst)
  | disconnecting => exact ignored (.inr hst)

/-- A plain acknowledgment is handled as a NUL is (`onNul_cases`), with the segment and its
payload taken where the NUL would be. -/
theorem onAck_cases {motive : Endpoint → Prop} (c : Common) (payload : Bytes)
    (stray : e.session.state = .closed ∨ e.session.state = .waiting →
      motive ((replyRst c).run e).2)
    (established : e.session.state = .connecting →
      (c.flags.has .ack && c.ack == e.session.info.sendInitial) = true →
      motive ((segmentArrives c [] payload).run (establish.run e).2).2)
    (refused : e.session.state = .connecting →
      (c.flags.has .ack && c.ack == e.session.info.sendInitial) = false →
      motive ((replyRst c).run e).2)
    (arrived : e.session.state = .connected → motive ((segmentArrives c [] payload).run e).2)
    (ignored : e.session.state = .initiating ∨ e.session.state = .disconnecting → motive e) :
    motive ((onAck c payload).run e).2 := by
  unfold onAck
  rw [run_bind, run_session]
  cases hst : e.session.state with
  | closed => exact stray (.inl hst)
  | waiting => exact stray (.inr hst)
  | connecting =>
    rw [run_bind, run_acknowledgesSyn]
    dsimp only
    by_cases hsyn : (c.flags.has .ack && c.ack == e.session.info.sendInitial) = true
    · rw [if_pos hsyn, run_bind]
      exact established hst hsyn
    · rw [if_neg hsyn]
      exact refused hst (Bool.eq_false_iff.2 hsyn)
  | connected => exact arrived hst
  | initiating => exact ignored (.inl hst)
  | disconnecting => exact ignored (.inr hst)

/-- An extended acknowledgment is answered with an RST while closed or waiting, gives up the
handshake while connecting, is taken while connected and is ignored otherwise. -/
theorem onEack_cases {motive : Endpoint → Prop} (c : Common) (acks : List UInt16) (payload : Bytes)
    (stray : e.session.state = .closed ∨ e.session.state = .waiting →
      motive ((replyRst c).run e).2)
    (refused : e.session.state = .connecting → motive (reset.run ((replyRst c).run e).2).2)
    (arrived : e.session.state = .connected → motive ((segmentArrives c acks payload).run e).2)
    (ignored : e.session.state = .initiating ∨ e.session.state = .disconnecting → motive e) :
    motive ((onEack c acks payload).run e).2 := by
  unfold onEack
  rw [run_bind, run_session]
  cases hst : e.session.state with
  | closed => exact stray (.inl hst)
  | waiting => exact stray (.inr hst)
  | connecting =>
    rw [run_bind]
    exact refused hst
  | connected => exact arrived hst
  | initiating => exact ignored (.inl hst)
  | disconnecting => exact ignored (.inr hst)

/-- What the peer's SYN can lead to. It is answered with an RST while closed, while waiting when
it carries ACK, and while initiating when it acknowledges something other than our SYN. Without
ACK, a waiting or initiating session records it and enters `connecting`; acknowledging ours, an
initiating session records it and completes the handshake at once. An unusable configuration,
or while connecting another initial number, gives the attempt up. While connecting, the same
SYN completes the handshake when it acknowledges ours and has our SYN repeated otherwise; while
connected it is acknowledged again, and another one closes the connection. -/
theorem onSyn_cases {motive : Endpoint → Prop} (c : Common) (config : Config)
    (stray : e.session.state = .closed ∨ e.session.state = .waiting ∧ c.flags.has .ack = true ∨
        e.session.state = .initiating ∧ c.flags.has .ack = true ∧
          (c.flags.has .ack && c.ack == e.session.info.sendInitial) = false →
      motive ((replyRst c).run e).2)
    (answered : e.session.state = .waiting ∨ e.session.state = .initiating →
      c.flags.has .ack = false → config.isValid = true →
      motive ((enter .connecting).run { e with session := { e.session with info := { e.session.info with
        remote := some config, receiveInitial := c.seq, receiveAcked := c.seq } } }).2)
    (crossed : e.session.state = .initiating →
      (c.flags.has .ack && c.ack == e.session.info.sendInitial) = true → config.isValid = true →
      motive (sendAck.run (establish.run { e with session := { e.session with info := { e.session.info with
        remote := some config, receiveInitial := c.seq, receiveAcked := c.seq } } }).2).2)
    (refused : e.session.state = .waiting ∨ e.session.state = .initiating ∨
        e.session.state = .connecting →
      motive (reset.run ((replyRst c).run e).2).2)
    (established : e.session.state = .connecting → c.seq = e.session.info.receiveInitial →
      (c.flags.has .ack && c.ack == e.session.info.sendInitial) = true →
      motive (sendAck.run (establish.run e).2).2)
    (repeated : e.session.state = .connecting → c.seq = e.session.info.receiveInitial →
      (c.flags.has .ack && c.ack == e.session.info.sendInitial) = false →
      motive ((sendSyn (some e.session.info.receiveAcked)).run e).2)
    (reacknowledged : e.session.state = .connected → c.seq = e.session.info.receiveInitial →
      motive (sendAck.run e).2)
    (dropped : e.session.state = .connected → c.seq ≠ e.session.info.receiveInitial →
      motive ((enter .closed).run ((replyRst c).run e).2).2)
    (ignored : e.session.state = .disconnecting → motive e) :
    motive ((onSyn c config).run e).2 := by
  unfold onSyn
  rw [run_bind, run_session]
  -- the peer's SYN without ACK, taken while waiting or initiating
  have answer : e.session.state = .waiting ∨ e.session.state = .initiating →
      c.flags.has .ack = false →
      motive ((do if ← acceptRemote c config then enter .connecting : Act Unit).run e).2 := by
    intro hst hack
    rw [run_bind, run_acceptRemote]
    by_cases hv : config.isValid = true
    · rw [if_pos hv]
      exact answered hst hack hv
    · rw [if_neg hv]
      exact refused (hst.imp_right .inl)
  cases hst : e.session.state with
  | closed => exact stray (.inl hst)
  | waiting =>
    dsimp only
    by_cases hack : c.flags.has .ack = true
    · rw [if_pos hack]
      exact stray (.inr (.inl ⟨hst, hack⟩))
    · rw [if_neg hack]
      exact answer (.inl hst) (Bool.eq_false_iff.2 hack)
  | initiating =>
    dsimp only
    by_cases hack : c.flags.has .ack = true
    · rw [if_pos hack, run_bind, run_acknowledgesSyn]
      dsimp only
      by_cases hsyn : (c.flags.has .ack && c.ack == e.session.info.sendInitial) = true
      · rw [hsyn, Bool.not_true, if_neg Bool.false_ne_true, run_bind, run_acceptRemote]
        by_cases hv : config.isValid = true
        · rw [if_pos hv]
          exact crossed hst hsyn hv
        · rw [if_neg hv]
          exact refused (.inr (.inl hst))
      · rw [Bool.not_eq_true] at hsyn
        rw [hsyn, Bool.not_false, if_pos rfl]
        exact stray (.inr (.inr ⟨hst, hack, hsyn⟩))
    · rw [if_neg hack]
      exact answer (.inr hst) (Bool.eq_false_iff.2 hack)
  | connecting =>
    dsimp only
    by_cases hseq : c.seq = e.session.info.receiveInitial
    · rw [if_neg (not_not.2 hseq), run_bind, run_acknowledgesSyn]
      dsimp only
      by_cases hsyn : (c.flags.has .ack && c.ack == e.session.info.sendInitial) = true
      · rw [if_pos hsyn, run_bind]
        exact established hst hseq hsyn
      · rw [if_neg hsyn]
        exact repeated hst hseq (Bool.eq_false_iff.2 hsyn)
    · rw [if_pos hseq, run_bind]
      exact refused (.inr (.inr hst))
  | connected =>
    dsimp only
    by_cases hseq : c.seq = e.session.info.receiveInitial
    · rw [if_pos hseq]
      exact reacknowledged hst hseq
    · rw [if_neg hseq, run_bind]
      exact dropped hst hseq
  | disconnecting => exact ignored hst

/-- What the delivery of a wake-up can lead to, following its handler: a retransmission
wake-up of a connected session is taken by the retransmission queue and, when its segment ran
out of retries, the session sends an RST and starts the grace period; a keep-alive wake-up of a
connected session is taken as such; the handshake wake-up of an initiating or connecting session
repeats its SYN or gives up; the grace period's own wake-up closes a disconnecting session. Any
other wake-up changes nothing. -/
theorem timerFired_cases {motive : Endpoint → Prop} (hd : Handle) (timer : Timer) (same : motive e)
    (resent : ∀ seq, e.session.state = .connected → timer = .retransmission seq →
      ((retransmitFired seq hd).run e).1 = true → motive ((retransmitFired seq hd).run e).2)
    (exhausted : ∀ seq, e.session.state = .connected → timer = .retransmission seq →
      ((retransmitFired seq hd).run e).1 = false →
      motive ((enter .disconnecting).run (sendRst.run ((retransmitFired seq hd).run e).2).2).2)
    (keptAlive : e.session.state = .connected → timer = .keepAlive →
      motive ((keepAliveFired hd).run e).2)
    (retriedSyn : e.session.state = .initiating → timer = .handshake →
      motive ((do
        match ← handshakeTimeout hd with
        | some true => sendSyn none
        | some false => reset
        | none => pure () : Act Unit).run e).2)
    (retriedSynAck : e.session.state = .connecting → timer = .handshake →
      motive ((do
        match ← handshakeTimeout hd with
        | some true => sendSyn (some (← info).receiveAcked)
        | some false => reset
        | none => pure () : Act Unit).run e).2)
    (finished : e.session.state = .disconnecting → timer = .disconnect →
      e.session.timers.disconnect = some hd →
      motive ((enter .closed).run { e with session := { e.session with timers :=
        { e.session.timers with disconnect := none } } }).2) :
    motive ((timerFired hd timer).run e).2 := by
  unfold timerFired
  rw [run_bind, run_session]
  cases hst : e.session.state <;> cases timer <;> dsimp only
  case connected.retransmission seq =>
    rw [run_bind]
    by_cases hr : ((retransmitFired seq hd).run e).1 = true
    · rw [hr, Bool.not_true, if_neg Bool.false_ne_true, run_pure]
      exact resent seq hst rfl hr
    · rw [Bool.not_eq_true] at hr
      rw [hr, Bool.not_false, if_pos rfl, run_bind]
      exact exhausted seq hst rfl hr
  case connected.keepAlive => exact keptAlive hst rfl
  case initiating.handshake => exact retriedSyn hst rfl
  case connecting.handshake => exact retriedSynAck hst rfl
  case disconnecting.disconnect =>
    by_cases hdc : e.session.timers.disconnect = some hd
    · rw [if_pos hdc, run_bind, run_modifyTimers]
      exact finished hst rfl hdc
    · rw [if_neg hdc, run_pure]
      exact same
  all_goals exact same

/-- A property of the endpoint a datagram leaves holds when it holds of `e`, which a datagram
longer than the segment size or one that does not decode leaves as it is, and of what the
handler of each segment decoded from a datagram within the size leaves. -/
theorem receive_cases {motive : Endpoint → Prop} (datagram : Bytes) (same : motive e)
    (decoded : ∀ seg, datagram.length ≤ e.session.info.config.maxSegmentSize.toNat →
      Segment.parse datagram = .ok seg → motive ((onSegment seg).run e).2) :
    motive ((receive datagram).run e).2 := by
  rw [receive, run_bind, run_info]
  dsimp only
  by_cases hl : datagram.length > e.session.info.config.maxSegmentSize.toNat
  · rw [if_pos hl]
    exact same
  · rw [if_neg hl]
    split
    · exact decoded _ (Nat.le_of_not_lt hl) ‹_›
    · exact same

end Arrivals

/-! ### Intents -/

section Intents

variable (e : Endpoint)

/-- Opening actively: a closed session takes its initial number and enters `initiating`; any
other session stays as it is. -/
theorem connect_cases {motive : Endpoint → Prop} (iss : UInt16) (same : motive e)
    (opened : e.session.state = .closed →
      motive ((enter .initiating).run ((start iss false).run e).2).2) :
    motive ((connect iss).run e).2 := by
  unfold connect
  rw [run_bind, run_session]
  by_cases hst : e.session.state = .closed
  · rw [if_pos hst, run_bind]
    exact opened hst
  · rw [if_neg hst]
    exact same

/-- Opening passively: a closed session takes its initial number and enters `waiting`; any other
session stays as it is. -/
theorem wait_cases {motive : Endpoint → Prop} (iss : UInt16) (same : motive e)
    (opened : e.session.state = .closed →
      motive ((enter .waiting).run ((start iss true).run e).2).2) :
    motive ((wait iss).run e).2 := by
  unfold wait
  rw [run_bind, run_session]
  by_cases hst : e.session.state = .closed
  · rw [if_pos hst, run_bind]
    exact opened hst
  · rw [if_neg hst]
    exact same

/-- Closing: a waiting session closes at once, an initiating one after an RST that acknowledges
nothing and a connecting one after its RST; a connected session sends its RST and starts the
grace period; a closed or disconnecting session stays as it is. -/
theorem close_cases {motive : Endpoint → Prop} (same : motive e)
    (stopped : e.session.state = .waiting → motive ((enter .closed).run e).2)
    (withdrawn : e.session.state = .initiating →
      motive ((enter .closed).run
        ((transmit (Header.buildRst 0 e.session.info.sendNext none)).run e).2).2)
    (abandoned : e.session.state = .connecting →
      motive ((enter .closed).run (sendRst.run e).2).2)
    (hungUp : e.session.state = .connected →
      motive ((enter .disconnecting).run (sendRst.run e).2).2) :
    motive (close.run e).2 := by
  unfold close
  rw [run_bind, run_session]
  cases hst : e.session.state with
  | waiting => exact stopped hst
  | initiating =>
    rw [run_bind, run_info, run_bind]
    exact withdrawn hst
  | connecting =>
    rw [run_bind]
    exact abandoned hst
  | connected =>
    rw [run_bind]
    exact hungUp hst
  | closed | disconnecting => exact same

/-- Sending: only a connected session takes a payload. -/
theorem send_cases {motive : Endpoint → Prop} (payload : Bytes) (same : motive e)
    (sent : e.session.state = .connected → motive ((sendData payload).run e).2) :
    motive ((send payload).run e).2 := by
  unfold send
  rw [run_bind, run_session]
  by_cases hst : e.session.state = .connected
  · rw [if_pos hst]
    exact sent hst
  · rw [if_neg hst]
    exact same

end Intents

end Act

end ReliableDatagram
