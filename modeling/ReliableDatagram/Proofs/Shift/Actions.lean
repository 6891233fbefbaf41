import ReliableDatagram.Proofs.Shift.Wire
import ReliableDatagram.Proofs.Shift.Windows
import ReliableDatagram.Proofs.Talk
/-!
# Moving the numbers of a session

Two runs of the engine correspond when one has this side's numbers `a` further on and the
peer's `b` further on, within an event that hands the session the segment with common part
`rcv`, if any. `Endpoint.Shifted a b rcv e e'` states the correspondence of two endpoints:

* the same state, configurations, timer record and handles;
* this side's numbers `a` further on while the session is open, the peer's `b` further on once
  a peer has been accepted (before that they are not read);
* windows that correspond: the send ring and retransmission queue `a` further on, the send ring
  holding each segment with its numbers moved, the receive ring `b` further on holding the same
  payloads; the schedule with its retransmission wake-ups `a` further on;
* the effects in step (`Effect.Shifted`): datagrams with their numbers moved, the same payloads
  delivered, payloads accepted under numbers `a` further on, the same states entered.

One datagram does not move with the rest: the RST answering the event's segment when it carries
neither ACK nor NUL has sequence number zero in both runs, since it takes no number of either
side. The relation admits that exception for the event's own segment only (`rcv`), so no other
RST can pass for it.

This module shows that each action of the engine keeps the correspondence when the corresponding
run performs it with its arguments moved. What an action needs of the session to read only
numbers that correspond is its precondition: an open session, or an accepted peer.
-/

namespace ReliableDatagram

namespace Effect

/-- `x'` is the effect `x` of a run whose own numbers are `a` further on and whose peer's are `b`
further on, in an event that hands the session the segment with common part `rcv`, if any. -/
inductive Shifted (a b : UInt16) (rcv : Option Common) : Effect → Effect → Prop
  /-- A datagram sent with its numbers moved. -/
  | transmit {d d' : Bytes} : Datagram.Shifted a b d d' → Shifted a b rcv (.transmit d) (.transmit d')
  /-- The RST answering the event's segment when it has neither ACK nor NUL: only the
  acknowledgment moves. -/
  | answer {c : Common} {d d' : Bytes} {sealed sealed' : Header} : rcv = some c →
      c.flags.has .ack = false → c.flags.has .nul = false →
      (Header.buildRst 0 0 (some c.seq)).encode [] = .ok (sealed, d) →
      (Header.buildRst 0 0 (some (c.seq + b))).encode [] = .ok (sealed', d') →
      Shifted a b rcv (.transmit d) (.transmit d')
  /-- The same payload delivered. -/
  | deliver (payload : Bytes) : Shifted a b rcv (.deliver payload) (.deliver payload)
  /-- A payload accepted under a number `a` further on. -/
  | accepted (seq : UInt16) : Shifted a b rcv (.accepted seq) (.accepted (seq + a))
  /-- The same state entered. -/
  | entered (st : State) : Shifted a b rcv (.entered st) (.entered st)

end Effect

namespace Info

/-- `i'` has this side's numbers `a` past those of `i`. -/
structure SendShifted (a : UInt16) (i i' : Info) : Prop where
  sendInitial : i'.sendInitial = i.sendInitial + a
  sendNext : i'.sendNext = i.sendNext + a
  sendUnacked : i'.sendUnacked = i.sendUnacked + a

/-- `i'` has the peer's numbers `b` past those of `i`. -/
structure ReceiveShifted (b : UInt16) (i i' : Info) : Prop where
  receiveInitial : i'.receiveInitial = i.receiveInitial + b
  receiveAcked : i'.receiveAcked = i.receiveAcked + b

end Info

namespace Session

/-- `s'` is the session `s` with this side's numbers `a` further on and the peer's `b` further on.
The numbers are compared only where the session reads them: its own once it is open, the peer's
once a peer is accepted. While connected, the send ring has room for the peer's largest
segment. -/
structure Shifted (a b : UInt16) (s s' : Session) : Prop where
  state : s'.state = s.state
  config : s'.info.config = s.info.config
  remote : s'.info.remote = s.info.remote
  passive : s'.info.passive = s.info.passive
  send : s.state ≠ .closed → Info.SendShifted a s.info s'.info
  receive : s.info.remote.isSome → Info.ReceiveShifted b s.info s'.info
  /-- An opening or connected session has accepted its peer. -/
  accepted : s.state = .connecting ∨ s.state = .connected → s.info.remote.isSome
  timers : s'.timers = s.timers
  retransmit : s'.retransmit = s.retransmit.map (·.shift a)
  sendRing : Option.Rel (SegmentBuffer.Shifted a (Datagram.Shifted a b)) s.sendRing s'.sendRing
  receiveRing : Option.Rel (SegmentBuffer.Shifted b Eq) s.receiveRing s'.receiveRing
  room : s.state = .connected → ∀ ring r, s.sendRing = some ring → s.info.remote = some r →
    r.maxSegmentSize.toNat ≤ ring.slotSize

end Session

namespace Endpoint

/-- `e'` is the endpoint `e` with this side's numbers `a` further on and the peer's `b` further
on: corresponding sessions, the schedule moved, and the effects in step. -/
structure Shifted (a b : UInt16) (rcv : Option Common) (e e' : Endpoint) : Prop where
  session : Session.Shifted a b e.session e'.session
  schedule : e'.schedule = e.schedule.shift a
  effects : List.Forall₂ (Effect.Shifted a b rcv) e.effects e'.effects

end Endpoint

/-- The numbers listed from a ring that may be absent move with it. -/
theorem SegmentBuffer.Shifted.enumerate_getD {k : UInt16} {R : Bytes → Bytes → Prop}
    {x y : Option SegmentBuffer} (h : Option.Rel (SegmentBuffer.Shifted k R) x y) (m : Nat) :
    (y.map (·.enumerate m)).getD [] = ((x.map (·.enumerate m)).getD []).map (· + k) := by
  cases h with
  | none => rfl
  | some hr => exact hr.enumerate m

/-! ### Parts of the session that change alone -/

namespace Session.Shifted

variable {a b : UInt16} {s s' : Session}

theorem setTimers (S : Shifted a b s s') (t : Timers) :
    Shifted a b { s with timers := t } { s' with timers := t } :=
  { S with timers := rfl }

theorem setQueue (S : Shifted a b s s') (q : RetransmitQueue) :
    Shifted a b { s with retransmit := some q } { s' with retransmit := some (q.shift a) } :=
  { S with retransmit := rfl }

end Session.Shifted

namespace Endpoint.Shifted

variable {a b : UInt16} {rcv : Option Common} {e e' : Endpoint}

/-- This side's numbers correspond once the session is open. -/
theorem sendShifted (E : Shifted a b rcv e e') (hst : e.session.state ≠ .closed) :
    Info.SendShifted a e.session.info e'.session.info :=
  E.session.send hst

/-- The peer's numbers correspond while opening or connected. -/
theorem receiveShifted (E : Shifted a b rcv e e')
    (hst : e.session.state = .connecting ∨ e.session.state = .connected) :
    Info.ReceiveShifted b e.session.info e'.session.info :=
  E.session.receive (E.session.accepted hst)

theorem emit (E : Shifted a b rcv e e') {x x' : Effect} (hx : Effect.Shifted a b rcv x x') :
    Shifted a b rcv { e with effects := e.effects ++ [x] } { e' with effects := e'.effects ++ [x'] } :=
  ⟨E.session, E.schedule, List.rel_append E.effects (.cons hx .nil)⟩

theorem setTimers (E : Shifted a b rcv e e') (t : Timers) :
    Shifted a b rcv { e with session := { e.session with timers := t } }
      { e' with session := { e'.session with timers := t } } :=
  ⟨E.session.setTimers t, E.schedule, E.effects⟩

/-- A change of the wake-ups held, with the schedule changed alike. -/
theorem withTimers (E : Shifted a b rcv e e') (sc : Schedule) (t : Timers) :
    Shifted a b rcv { e with schedule := sc, session := { e.session with timers := t } }
      { e' with schedule := sc.shift a, session := { e'.session with timers := t } } :=
  ⟨E.session.setTimers t, rfl, E.effects⟩

/-- A change of the retransmission queue, with the schedule changed alike. -/
theorem withQueue (E : Shifted a b rcv e e') (sc : Schedule) (q : RetransmitQueue) :
    Shifted a b rcv { e with schedule := sc, session := { e.session with retransmit := some q } }
      { e' with schedule := sc.shift a, session := { e'.session with retransmit := some (q.shift a) } } :=
  ⟨E.session.setQueue q, rfl, E.effects⟩

/-! ### Speaking to the peer -/

/-- Sending corresponding datagrams ends the idle period in both. -/
theorem sent (E : Shifted a b rcv e e') {x x' : Effect} (hx : Effect.Shifted a b rcv x x') :
    Shifted a b rcv { e with
        effects := e.effects ++ [x]
        session := { e.session with timers := { e.session.timers with idle := false } } }
      { e' with
        effects := e'.effects ++ [x']
        session := { e'.session with timers := { e'.session.timers with idle := false } } } := by
  refine ⟨?_, E.schedule, List.rel_append E.effects (.cons hx .nil)⟩
  rw [E.session.timers]
  exact E.session.setTimers _

/-- Two headers that move into each other are encoded alike: both or neither, and what is sent
corresponds when `hx` says so of every pair of encodings. -/
theorem transmit_of (E : Shifted a b rcv e e') {h h' : Header}
    (hok : (∃ r, h'.encode [] = .ok r) ↔ ∃ r, h.encode [] = .ok r)
    (hx : ∀ {sealed sealed' : Header} {d d' : Bytes}, h.encode [] = .ok (sealed, d) →
      h'.encode [] = .ok (sealed', d') → Effect.Shifted a b rcv (.transmit d) (.transmit d')) :
    Shifted a b rcv ((Act.transmit h).run e).2 ((Act.transmit h').run e').2 := by
  rw [Act.run_transmit, Act.run_transmit]
  cases he : h.encode [] with
  | ok r =>
    obtain ⟨⟨sealed', d'⟩, he'⟩ := hok.2 ⟨r, he⟩
    rw [he']
    exact E.sent (hx he he')
  | error err =>
    cases he' : h'.encode [] with
    | ok r' =>
      obtain ⟨r, hr⟩ := hok.1 ⟨r', he'⟩
      rw [he] at hr
      cases hr
    | error err' => exact E

theorem transmit (E : Shifted a b rcv e e') (h : Header) :
    Shifted a b rcv ((Act.transmit h).run e).2 ((Act.transmit (h.shiftOut a b)).run e').2 :=
  E.transmit_of (Header.encode_shift_ok_iff h _ _ _ []) fun he he' ↦ .transmit ⟨h, [], _, _, he, he'⟩

/-- The RST answering the event's segment, when it has neither ACK nor NUL, moves only its
acknowledgment. -/
theorem transmit_answer (E : Shifted a b rcv e e') {c : Common} (hrcv : rcv = some c)
    (hack : c.flags.has .ack = false) (hnul : c.flags.has .nul = false) :
    Shifted a b rcv ((Act.transmit (Header.buildRst 0 0 (some c.seq))).run e).2
      ((Act.transmit (Header.buildRst 0 0 (some (c.seq + b)))).run e').2 := by
  have hh : Header.buildRst 0 0 (some (c.seq + b)) =
      (Header.buildRst 0 0 (some c.seq)).shiftOut 0 b := by
    rw [Header.buildRst_shiftOut, UInt16.add_zero, Option.map_some]
  refine E.transmit_of ?_ fun he he' ↦ .answer hrcv hack hnul he he'
  rw [hh]
  exact Header.encode_shift_ok_iff _ _ _ _ _

theorem sendSyn (E : Shifted a b rcv e e') (hsend : Info.SendShifted a e.session.info e'.session.info)
    (ack : Option UInt16) :
    Shifted a b rcv ((Act.sendSyn ack).run e).2 ((Act.sendSyn (ack.map (· + b))).run e').2 := by
  rw [Act.run_sendSyn, Act.run_sendSyn, E.session.config, hsend.sendInitial,
    ← Header.buildSyn_shiftOut]
  exact E.transmit _

theorem sendRst (E : Shifted a b rcv e e') (hsend : Info.SendShifted a e.session.info e'.session.info)
    (hrecv : Info.ReceiveShifted b e.session.info e'.session.info) :
    Shifted a b rcv (Act.sendRst.run e).2 (Act.sendRst.run e').2 := by
  rw [Act.run_sendRst, Act.run_sendRst, hsend.sendNext, hrecv.receiveAcked]
  have hh := Header.buildRst_shiftOut a b 0 e.session.info.sendNext (some e.session.info.receiveAcked)
  rw [Option.map_some] at hh
  rw [← hh]
  exact E.transmit _

/-- The numbers an acknowledgment lists move with the receive ring. -/
theorem acks_shift (E : Shifted a b rcv e e') :
    (e'.session.receiveRing.map (·.enumerate (Act.eackLimit e'.session.info.remote))).getD [] =
      ((e.session.receiveRing.map (·.enumerate (Act.eackLimit e.session.info.remote))).getD []).map
        (· + b) := by
  rw [E.session.remote]
  exact SegmentBuffer.Shifted.enumerate_getD E.session.receiveRing _

theorem sendAck (E : Shifted a b rcv e e') (hsend : Info.SendShifted a e.session.info e'.session.info)
    (hrecv : Info.ReceiveShifted b e.session.info e'.session.info) :
    Shifted a b rcv (Act.sendAck.run e).2 (Act.sendAck.run e').2 := by
  rw [Act.run_sendAck, Act.run_sendAck, E.acks_shift, hsend.sendNext, hrecv.receiveAcked,
    List.isEmpty_map]
  split
  · rw [Header.buildAck, Header.buildAck, ← Header.buildData_shiftOut]
    exact E.transmit _
  · rw [Header.buildEack, Header.buildEack, ← Header.buildEackData_shiftOut]
    exact E.transmit _

/-- An RST answering the event's segment moves with it, but for the sequence number zero of one
that answers a segment with neither ACK nor NUL. -/
theorem replyRst (E : Shifted a b rcv e e') {c c' : Common} (hc : Common.Moved b a c c')
    (hrcv : rcv = some c) :
    Shifted a b rcv ((Act.replyRst c).run e).2 ((Act.replyRst c').run e').2 := by
  rw [Act.run_replyRst, Act.run_replyRst]
  unfold Act.rstFor
  simp only [hc.flags, hc.ack, hc.seq]
  by_cases hr : c.flags.has .rst = true
  · simp only [hr, ↓reduceIte]
    exact E
  by_cases hk : (c.flags.has .ack || c.flags.has .nul) = true
  · simp only [hr, hk, ↓reduceIte, Bool.false_eq_true]
    have hh := Header.buildRst_shiftOut a b 0 (c.ack + 1) none
    rw [Option.map_none, ← Seq.add_right_comm] at hh
    rw [← hh]
    exact E.transmit _
  · simp only [hr, hk, ↓reduceIte, Bool.false_eq_true]
    rw [Bool.or_eq_true, not_or, Bool.not_eq_true, Bool.not_eq_true] at hk
    exact E.transmit_answer hrcv hk.1 hk.2

/-! ### Wake-ups -/

theorem cancelHandshake (E : Shifted a b rcv e e') :
    Shifted a b rcv (Act.cancelHandshake.run e).2 (Act.cancelHandshake.run e').2 := by
  rw [Act.run_cancelHandshake, Act.run_cancelHandshake, E.schedule, E.session.timers,
    Schedule.cancel?_shift]
  exact E.withTimers _ _

theorem rearmHandshake (E : Shifted a b rcv e e') :
    Shifted a b rcv (Act.rearmHandshake.run e).2 (Act.rearmHandshake.run e').2 := by
  rw [Act.run_rearmHandshake, Act.run_rearmHandshake, E.schedule, E.session.timers,
    E.session.config, Schedule.cancel?_shift,
    Schedule.add_shift_of_eq _ _ _ (Timer.shift_handshake a), Schedule.issued_shift]
  exact E.withTimers _ _

theorem armHandshake (E : Shifted a b rcv e e') :
    Shifted a b rcv (Act.armHandshake.run e).2 (Act.armHandshake.run e').2 := by
  rw [Act.run_armHandshake, Act.run_armHandshake, E.session.timers]
  exact (E.setTimers _).rearmHandshake

/-- A handshake wake-up is honoured alike: the same answer, and corresponding endpoints. -/
theorem handshakeTimeout_fst (E : Shifted a b rcv e e') (h : Handle) :
    ((Act.handshakeTimeout h).run e').1 = ((Act.handshakeTimeout h).run e).1 := by
  rw [Act.run_handshakeTimeout, Act.run_handshakeTimeout, E.session.timers, E.session.config]
  split_ifs <;> rfl

theorem handshakeTimeout (E : Shifted a b rcv e e') (h : Handle) :
    Shifted a b rcv ((Act.handshakeTimeout h).run e).2 ((Act.handshakeTimeout h).run e').2 := by
  rw [Act.run_handshakeTimeout, Act.run_handshakeTimeout, E.session.timers, E.session.config]
  split_ifs
  · exact E
  · exact E.setTimers _
  · exact (E.setTimers _).rearmHandshake

theorem armKeepAlive (E : Shifted a b rcv e e') :
    Shifted a b rcv (Act.armKeepAlive.run e).2 (Act.armKeepAlive.run e').2 := by
  rw [Act.run_armKeepAlive, Act.run_armKeepAlive, E.session.remote, E.schedule, E.session.timers]
  cases e.session.info.remote with
  | none => exact E
  | some r =>
    dsimp only
    split_ifs
    · exact E
    · rw [Schedule.add_shift_of_eq _ _ _ (Timer.shift_keepAlive a), Schedule.issued_shift]
      exact E.withTimers _ _

theorem cancelKeepAlive (E : Shifted a b rcv e e') :
    Shifted a b rcv (Act.cancelKeepAlive.run e).2 (Act.cancelKeepAlive.run e').2 := by
  rw [Act.run_cancelKeepAlive, Act.run_cancelKeepAlive, E.schedule, E.session.timers,
    Schedule.cancel?_shift]
  exact E.withTimers _ _

/-- A keep-alive wake-up reads this side's and the peer's numbers when it sends its NUL. -/
theorem keepAliveFired (E : Shifted a b rcv e e')
    (hsend : Info.SendShifted a e.session.info e'.session.info)
    (hrecv : Info.ReceiveShifted b e.session.info e'.session.info) (h : Handle) :
    Shifted a b rcv ((Act.keepAliveFired h).run e).2 ((Act.keepAliveFired h).run e').2 := by
  rw [Act.run_keepAliveFired, Act.run_keepAliveFired, E.session.timers, hsend.sendNext,
    hrecv.receiveAcked, ← Header.buildNul_shiftOut]
  dsimp only
  split_ifs
  · exact E
  · exact ((E.setTimers _).transmit _).armKeepAlive
  · exact (E.setTimers _).armKeepAlive

theorem cancelDisconnect (E : Shifted a b rcv e e') :
    Shifted a b rcv (Act.cancelDisconnect.run e).2 (Act.cancelDisconnect.run e').2 := by
  rw [Act.run_cancelDisconnect, Act.run_cancelDisconnect, E.schedule, E.session.timers,
    Schedule.cancel?_shift]
  exact E.withTimers _ _

theorem armDisconnect (E : Shifted a b rcv e e') :
    Shifted a b rcv (Act.armDisconnect.run e).2 (Act.armDisconnect.run e').2 := by
  rw [Act.run_armDisconnect, Act.run_armDisconnect, E.schedule, E.session.timers,
    Schedule.cancel?_shift, Schedule.add_shift_of_eq _ _ _ (Timer.shift_disconnect a),
    Schedule.issued_shift]
  exact E.withTimers _ _

theorem cancelRetransmissions (E : Shifted a b rcv e e') :
    Shifted a b rcv (Act.cancelRetransmissions.run e).2 (Act.cancelRetransmissions.run e').2 := by
  rw [Act.run_cancelRetransmissions, Act.run_cancelRetransmissions, E.session.retransmit,
    E.schedule]
  cases e.session.retransmit with
  | none => exact E
  | some q =>
    simp only [Option.map_some, RetransmitQueue.base_shift, RetransmitQueue.setBase_shift]
    exact E.withQueue _ _

theorem cancelAllTimers (E : Shifted a b rcv e e') :
    Shifted a b rcv (Act.cancelAllTimers.run e).2 (Act.cancelAllTimers.run e').2 := by
  rw [Act.run_cancelAllTimers, Act.run_cancelAllTimers]
  exact E.cancelRetransmissions.cancelHandshake.cancelKeepAlive.cancelDisconnect

/-! ### The lifecycle -/

/-- Marking a new state keeps the correspondence when the new state reads only numbers that
correspond: this side's once open, the peer's once opening or connected. A connected state also
needs room in its send ring, which only opening the windows gives (`openWindows`). -/
theorem setState (E : Shifted a b rcv e e') {next : State}
    (hsend : next ≠ .closed → Info.SendShifted a e.session.info e'.session.info)
    (hlive : next = .connecting ∨ next = .connected → e.session.info.remote.isSome)
    (hne : next ≠ .connected) :
    Shifted a b rcv { e with session := { e.session with state := next } }
      { e' with session := { e'.session with state := next } } :=
  ⟨{ E.session with
      state := rfl
      send := hsend
      accepted := hlive
      room := fun h ↦ absurd h hne }, E.schedule, E.effects⟩

/-- Entering `connected` opens windows that correspond: the send ring and queue based at this
side's next number, the receive ring two past the peer's last delivered one. -/
theorem openWindows (E : Shifted a b rcv e e')
    (hsend : Info.SendShifted a e.session.info e'.session.info) (hlive : e.session.info.remote.isSome) :
    Shifted a b rcv (Act.openWindows.run { e with session := { e.session with state := .connected } }).2
      (Act.openWindows.run { e' with session := { e'.session with state := .connected } }).2 := by
  have hrecv := E.session.receive hlive
  rw [Act.run_openWindows, Act.run_openWindows]
  dsimp only
  rw [E.session.remote, E.session.config, E.schedule, hsend.sendNext, hrecv.receiveAcked,
    Seq.add_right_comm _ b 2, RetransmitQueue.setBase_shift]
  refine ⟨{ E.session with
      state := rfl
      send := fun _ ↦ hsend
      accepted := fun _ ↦ hlive
      retransmit := rfl
      sendRing := .some (SegmentBuffer.Shifted.new_setBase _ _ _)
      receiveRing := .some (SegmentBuffer.Shifted.new_setBase _ _ _)
      room := ?_ }, rfl, E.effects⟩
  -- the send ring is cut to the segment size of the peer, whose configuration is recorded
  rintro - ring r hring hr
  obtain rfl := Option.some.inj hring
  rw [SegmentBuffer.slotSize_setBase, hr, Option.getD_some]
  exact Nat.le_max_left _ _

/-- Dropping the windows forgets the peer, which only a closed or waiting session may do. -/
theorem dropWindows (E : Shifted a b rcv e e')
    (hq : e.session.state = .closed ∨ e.session.state = .waiting) :
    Shifted a b rcv (Act.dropWindows.run e).2 (Act.dropWindows.run e').2 := by
  have E₁ := E.cancelRetransmissions
  have hst : (Act.cancelRetransmissions.run e).2.session.state = e.session.state :=
    (sameTalk_cancelRetransmissions e).1
  rw [Act.run_dropWindows, Act.run_dropWindows]
  refine ⟨{ E₁.session with
      remote := rfl
      send := fun h ↦ have hs := E₁.session.send h; ⟨hs.1, hs.2, hs.3⟩
      receive := fun h ↦ absurd h (by simp)
      accepted := fun h ↦ absurd (hst ▸ h) (by rcases hq with hq | hq <;> simp [hq])
      retransmit := rfl
      sendRing := .none
      receiveRing := .none
      room := fun _ _ _ h ↦ absurd h (by simp) }, E₁.schedule, E₁.effects⟩

theorem leave (E : Shifted a b rcv e e') (st : State) :
    Shifted a b rcv ((Act.leave st).run e).2 ((Act.leave st).run e').2 := by
  cases st with
  | closed | waiting => exact E
  | initiating | connecting => exact E.cancelHandshake
  | connected =>
    rw [Act.run_leave_connected, Act.run_leave_connected]
    exact E.cancelRetransmissions.cancelKeepAlive
  | disconnecting => exact E.cancelDisconnect

/-- What entering a state requires is done alike, given what the new state reads. -/
theorem arrive (E : Shifted a b rcv e e') (next : State)
    (hsend : next ≠ .closed → Info.SendShifted a e.session.info e'.session.info)
    (hlive : next = .connecting ∨ next = .connected → e.session.info.remote.isSome) :
    Shifted a b rcv ((Act.arrive next).run { e with session := { e.session with state := next } }).2
      ((Act.arrive next).run { e' with session := { e'.session with state := next } }).2 := by
  cases next with
  | closed =>
    rw [Act.run_arrive_closed, Act.run_arrive_closed]
    have E₁ := (E.setState hsend hlive (by decide)).cancelAllTimers
    exact E₁.dropWindows (.inl (sameTalk_cancelAllTimers _).1)
  | waiting =>
    rw [Act.run_arrive_waiting, Act.run_arrive_waiting]
    have E₁ := (E.setState hsend hlive (by decide)).cancelAllTimers
    exact E₁.dropWindows (.inr (sameTalk_cancelAllTimers _).1)
  | initiating =>
    rw [Act.run_arrive_initiating, Act.run_arrive_initiating]
    have E₁ := E.setState hsend hlive (by decide)
    exact (E₁.sendSyn (hsend (by decide)) none).armHandshake
  | connecting =>
    rw [Act.run_arrive_connecting, Act.run_arrive_connecting]
    have E₁ := E.setState hsend hlive (by decide)
    have hrecv := E.session.receive (hlive (.inl rfl))
    dsimp only
    rw [hrecv.receiveAcked]
    exact (E₁.sendSyn (hsend (by decide)) (some e.session.info.receiveAcked)).armHandshake
  | connected =>
    rw [Act.run_arrive_connected, Act.run_arrive_connected]
    have E₁ := E.openWindows (hsend (by decide)) (hlive (.inr rfl))
    dsimp only
    rw [E.session.passive]
    split
    · exact E₁
    · exact E₁.armKeepAlive
  | disconnecting =>
    rw [Act.run_arrive_disconnecting, Act.run_arrive_disconnecting]
    exact (E.setState hsend hlive (by decide)).armDisconnect

/-- Entering a state keeps the correspondence, given what the new state reads. -/
theorem enter (E : Shifted a b rcv e e') (next : State)
    (hsend : next ≠ .closed → Info.SendShifted a e.session.info e'.session.info)
    (hlive : next = .connecting ∨ next = .connected → e.session.info.remote.isSome) :
    Shifted a b rcv ((Act.enter next).run e).2 ((Act.enter next).run e').2 := by
  rw [Act.run_enter, Act.run_enter, E.session.state]
  split
  · exact E
  · have hk := Act.leave_keeps e e.session.state
    have hk' := Act.leave_keeps e' e.session.state
    dsimp only
    refine ((E.leave _).arrive next ?_ ?_).emit (.entered next)
    · rw [hk.2.1, hk'.2.1]
      exact hsend
    · rw [hk.2.1]
      exact hlive

/-- Closing asks nothing of the numbers. -/
theorem enter_closed (E : Shifted a b rcv e e') :
    Shifted a b rcv ((Act.enter .closed).run e).2 ((Act.enter .closed).run e').2 :=
  E.enter .closed (fun h ↦ absurd rfl h) fun h ↦ by simp at h

/-- Winding down asks only that this side's numbers be in step, as they are short of closed. -/
theorem enter_disconnecting (E : Shifted a b rcv e e') (hne : e.session.state ≠ .closed) :
    Shifted a b rcv ((Act.enter .disconnecting).run e).2 ((Act.enter .disconnecting).run e').2 :=
  E.enter .disconnecting (fun _ ↦ E.sendShifted hne) fun h ↦ by simp at h

/-- Giving up returns to `waiting` or `closed`, which read no number of the peer. -/
theorem reset (E : Shifted a b rcv e e') (hne : e.session.state ≠ .closed) :
    Shifted a b rcv (Act.reset.run e).2 (Act.reset.run e').2 := by
  rw [Act.run_reset, Act.run_reset, E.session.passive]
  refine E.enter _ (fun _ ↦ E.sendShifted hne) ?_
  intro h
  split at h <;> simp at h

/-- A connection attempt starts from numbers `a` apart. -/
theorem start (E : Shifted a b rcv e e') (hst : e.session.state = .closed) (iss : UInt16)
    (passive : Bool) :
    Shifted a b rcv ((Act.start iss passive).run e).2 ((Act.start (iss + a) passive).run e').2 := by
  rw [Act.run_start, Act.run_start]
  exact ⟨{ E.session with
      remote := rfl
      passive := rfl
      send := fun _ ↦ ⟨rfl, Seq.add_right_comm _ _ _, rfl⟩
      receive := fun h ↦ absurd h (by simp)
      accepted := fun h ↦ absurd h (by simp [hst])
      room := fun h ↦ absurd h (by simp [hst]) }, E.schedule, E.effects⟩

/-- The handshake completes alike: the SYN counts as acknowledged in both. -/
theorem establish (E : Shifted a b rcv e e') (hne : e.session.state ≠ .closed)
    (hlive : e.session.info.remote.isSome) :
    Shifted a b rcv (Act.establish.run e).2 (Act.establish.run e').2 := by
  have hs := E.sendShifted hne
  rw [Act.run_establish, Act.run_establish]
  have E₁ : Shifted a b rcv { e with session := { e.session with info := { e.session.info with
        sendUnacked := e.session.info.sendInitial + 1 } } }
      { e' with session := { e'.session with info := { e'.session.info with
        sendUnacked := e'.session.info.sendInitial + 1 } } } :=
    ⟨{ E.session with
        send := fun _ ↦ ⟨hs.1, hs.2, by rw [hs.1]; exact Seq.add_right_comm _ _ _⟩
        receive := fun h ↦ have hr := E.session.receive h; ⟨hr.1, hr.2⟩ }, E.schedule, E.effects⟩
  exact E₁.enter .connected (fun _ ↦ ⟨hs.1, hs.2, by rw [hs.1]; exact Seq.add_right_comm _ _ _⟩)
    fun _ ↦ hlive

theorem acknowledgesSyn_fst (E : Shifted a b rcv e e') (hne : e.session.state ≠ .closed)
    {c c' : Common} (hc : Common.Moved b a c c') :
    ((Act.acknowledgesSyn c').run e').1 = ((Act.acknowledgesSyn c).run e).1 := by
  rw [Act.run_acknowledgesSyn, Act.run_acknowledgesSyn, (E.sendShifted hne).sendInitial,
    hc.flags, hc.ack, Seq.beq_add_add]

theorem acceptRemote_fst (c c' : Common) (config : Config) (e e' : Endpoint) :
    ((Act.acceptRemote c' config).run e').1 = ((Act.acceptRemote c config).run e).1 := by
  rw [Act.run_acceptRemote, Act.run_acceptRemote]
  split_ifs <;> rfl

/-- Taking the peer's SYN, the event's segment, records its number `b` further on; a session that
is connected has taken it already, and a closed one never takes it. -/
theorem acceptRemote (E : Shifted a b rcv e e') (hst : e.session.state ≠ .connected)
    (hne : e.session.state ≠ .closed) {c c' : Common} (hc : Common.Moved b a c c')
    (hrcv : rcv = some c) (config : Config) :
    Shifted a b rcv ((Act.acceptRemote c config).run e).2 ((Act.acceptRemote c' config).run e').2 := by
  rw [Act.run_acceptRemote, Act.run_acceptRemote]
  split_ifs
  · exact ⟨{ E.session with
        remote := rfl
        send := fun h ↦ have hs := E.session.send h; ⟨hs.1, hs.2, hs.3⟩
        receive := fun _ ↦ ⟨hc.seq, hc.seq⟩
        accepted := fun _ ↦ rfl
        room := fun h ↦ absurd h hst }, E.schedule, E.effects⟩
  · exact (E.replyRst hc hrcv).reset (by rw [(Act.spoken_replyRst e c).state]; exact hne)

end Endpoint.Shifted

end ReliableDatagram
