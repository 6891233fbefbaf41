import ReliableDatagram.Proofs.Shift.Transfer
import ReliableDatagram.Proofs.Agreement
/-!
# A run with its numbers moved

Fix a shift `a` of this side's numbers and `b` of the peer's. A trace of events moves with them
(`Event.Shifted`): an opening with an initial number `a` further on, a received datagram that
decodes to the segment as received moved (`Header.MovedIn`: sequence number `b` further on,
acknowledgment field and extended acknowledgments `a` further on, the same payload), a
retransmission wake-up for a number `a` further on; everything else stays, and so does a datagram
that decodes in neither run. Run on a trace and on the moved trace, a fresh session stays in
correspondence (`Endpoint.Shifted.foldl_handle`). The main theorem, `Endpoint.shifted_run`, reads
off it what the two runs share: the same states, offered payloads answered alike, the same
wake-ups with retransmissions `a` apart, and the effects in step, the same payloads delivered and
the same datagrams sent with their numbers moved, but for one: the RST answering the event's
segment (`Event.received`) when it has neither ACK nor NUL has sequence number zero in both
(`reply_rst_unmoved`).

The event lemmas below assemble the action lemmas of `Proofs/Shift/Actions` and
`Proofs/Shift/Transfer` state by state, as the reactions do.
-/

namespace ReliableDatagram

namespace Endpoint.Shifted

variable {a b : UInt16} {rcv : Option Common} {e e' : Endpoint}

/-- The peer's initial number compares alike once a peer is accepted. -/
theorem seq_eq_iff (E : Shifted a b rcv e e') (hlive : e.session.info.remote.isSome)
    {c c' : Common} (hc : Common.Moved b a c c') :
    c'.seq = e'.session.info.receiveInitial ↔ c.seq = e.session.info.receiveInitial := by
  rw [hc.seq, (E.session.receive hlive).receiveInitial, UInt16.add_left_inj]

/-- The handshake completes and is acknowledged alike. -/
theorem establish_sendAck (E : Shifted a b rcv e e') (hne : e.session.state ≠ .closed)
    (hlive : e.session.info.remote.isSome) :
    Shifted a b rcv (Act.sendAck.run (Act.establish.run e).2).2
      (Act.sendAck.run (Act.establish.run e').2).2 := by
  refine (E.establish hne hlive).sendAck_of_connected ?_
  rw [Act.run_establish, Act.state_enter]

/-- Hanging up while connected: an RST in step, then winding down. -/
theorem hangUp (E : Shifted a b rcv e e') (hst : e.session.state = .connected) :
    Shifted a b rcv ((Act.enter .disconnecting).run (Act.sendRst.run e).2).2
      ((Act.enter .disconnecting).run (Act.sendRst.run e').2).2 := by
  obtain ⟨hsend, hrecv⟩ := E.numbers_of_connected hst
  exact (E.sendRst hsend hrecv).enter_disconnecting
    (by rw [(Act.spoken_sendRst e).state, hst]; decide)

/-- The peer's SYN is taken alike, and what follows an accepted one is done alike. -/
theorem acceptRemote_then (E : Shifted a b rcv e e') (hst : e.session.state ≠ .connected)
    (hne : e.session.state ≠ .closed) {c c' : Common} (hc : Common.Moved b a c c')
    (hrcv : rcv = some c) (config : Config) (k : Act Unit)
    (hk : ∀ {e₁ e₁' : Endpoint}, Shifted a b rcv e₁ e₁' → e₁.session.state = e.session.state →
      e₁.session.info.remote = some config → Shifted a b rcv (k.run e₁).2 (k.run e₁').2) :
    Shifted a b rcv ((do if ← Act.acceptRemote c config then k : Act Unit).run e).2
      ((do if ← Act.acceptRemote c' config then k : Act Unit).run e').2 := by
  have E₁ := E.acceptRemote hst hne hc hrcv config
  rw [Act.run_bind, Act.run_bind, acceptRemote_fst c c' config e e']
  have hr := Act.run_acceptRemote e c config
  by_cases hv : config.isValid = true
  · rw [if_pos hv] at hr
    rw [hr] at E₁ ⊢
    exact hk E₁ rfl rfl
  · rw [if_neg hv] at hr
    rw [hr] at E₁ ⊢
    exact E₁

/-- A segment that acknowledges this side's SYN does so in both runs. -/
theorem acknowledgesSyn_then (E : Shifted a b rcv e e') (hne : e.session.state ≠ .closed)
    {c c' : Common} (hc : Common.Moved b a c c') {k₁ k₂ k₁' k₂' : Act Unit}
    (h₁ : (c.flags.has .ack && c.ack == e.session.info.sendInitial) = true →
      Shifted a b rcv (k₁.run e).2 (k₁'.run e').2)
    (h₂ : (c.flags.has .ack && c.ack == e.session.info.sendInitial) = false →
      Shifted a b rcv (k₂.run e).2 (k₂'.run e').2) :
    Shifted a b rcv ((do if ← Act.acknowledgesSyn c then k₁ else k₂ : Act Unit).run e).2
      ((do if ← Act.acknowledgesSyn c' then k₁' else k₂' : Act Unit).run e').2 := by
  rw [Act.run_bind, Act.run_bind, E.acknowledgesSyn_fst hne hc, Act.run_acknowledgesSyn,
    Act.run_acknowledgesSyn]
  dsimp only
  cases h : (c.flags.has .ack && c.ack == e.session.info.sendInitial)
  · exact h₂ h
  · exact h₁ h

/-- Reaction to a SYN whose numbers are moved as the peer sends them. -/
theorem onSyn (E : Shifted a b rcv e e') {c c' : Common} (hc : Common.Moved b a c c')
    (hrcv : rcv = some c) (config : Config) :
    Shifted a b rcv ((Act.onSyn c config).run e).2 ((Act.onSyn c' config).run e').2 := by
  have hack : c'.flags.has .ack = true ↔ c.flags.has .ack = true := by
    rw [hc.flags]
  unfold Act.onSyn
  rw [Act.run_bind, Act.run_bind, Act.run_session, Act.run_session, E.session.state]
  cases hst : e.session.state with
  | closed => exact E.replyRst hc hrcv
  | waiting =>
    dsimp only
    by_cases ha : c.flags.has .ack = true
    · rw [if_pos ha, if_pos (hack.2 ha)]
      exact E.replyRst hc hrcv
    rw [if_neg ha, if_neg (mt hack.1 ha)]
    refine E.acceptRemote_then (by rw [hst]; decide) (by rw [hst]; decide) hc hrcv config _ ?_
    intro e₁ e₁' E₁ hst₁ hr₁
    exact E₁.enter .connecting (fun _ ↦ E₁.sendShifted (by rw [hst₁, hst]; decide))
      fun _ ↦ by rw [hr₁]; rfl
  | initiating =>
    dsimp only
    have hne : e.session.state ≠ .closed := by rw [hst]; decide
    have hnc : e.session.state ≠ .connected := by rw [hst]; decide
    by_cases ha : c.flags.has .ack = true
    · rw [if_pos ha, if_pos (hack.2 ha), Act.run_bind, Act.run_bind, E.acknowledgesSyn_fst hne hc,
        Act.run_acknowledgesSyn, Act.run_acknowledgesSyn]
      dsimp only
      -- a SYN that acknowledges another SYN than ours is answered with an RST
      cases hsyn : (c.flags.has .ack && c.ack == e.session.info.sendInitial)
      · exact E.replyRst hc hrcv
      refine E.acceptRemote_then hnc hne hc hrcv config _ ?_
      intro e₁ e₁' E₁ hst₁ hr₁
      exact E₁.establish_sendAck (by rw [hst₁]; exact hne) (by rw [hr₁]; rfl)
    rw [if_neg ha, if_neg (mt hack.1 ha)]
    refine E.acceptRemote_then hnc hne hc hrcv config _ ?_
    intro e₁ e₁' E₁ hst₁ hr₁
    exact E₁.enter .connecting (fun _ ↦ E₁.sendShifted (by rw [hst₁]; exact hne))
      fun _ ↦ by rw [hr₁]; rfl
  | connecting =>
    dsimp only
    have hne : e.session.state ≠ .closed := by rw [hst]; decide
    have hlive := E.session.accepted (.inl hst)
    by_cases hseq : c.seq ≠ e.session.info.receiveInitial
    · rw [if_pos hseq, if_pos (mt (E.seq_eq_iff hlive hc).1 hseq), Act.run_bind, Act.run_bind]
      exact (E.replyRst hc hrcv).reset (by rw [(Act.spoken_replyRst e c).state]; exact hne)
    have hseq' := (E.seq_eq_iff hlive hc).2 (Decidable.of_not_not hseq)
    rw [if_neg hseq, if_neg (not_not_intro hseq')]
    refine E.acknowledgesSyn_then hne hc (fun _ ↦ E.establish_sendAck hne hlive) fun _ ↦ ?_
    rw [(E.receiveShifted (.inl hst)).receiveAcked]
    exact E.sendSyn (E.sendShifted hne) (some e.session.info.receiveAcked)
  | connected =>
    dsimp only
    have hlive := E.session.accepted (.inr hst)
    by_cases hseq : c.seq = e.session.info.receiveInitial
    · rw [if_pos hseq, if_pos ((E.seq_eq_iff hlive hc).2 hseq)]
      exact E.sendAck_of_connected hst
    · rw [if_neg hseq, if_neg (mt (E.seq_eq_iff hlive hc).1 hseq), Act.run_bind, Act.run_bind]
      exact (E.replyRst hc hrcv).enter_closed
  | disconnecting => exact E

/-- Reaction to an RST. -/
theorem onRst (E : Shifted a b rcv e e') : Shifted a b rcv (Act.onRst.run e).2 (Act.onRst.run e').2 := by
  unfold Act.onRst
  rw [Act.run_bind, Act.run_bind, Act.run_session, Act.run_session, E.session.state]
  cases hst : e.session.state with
  | initiating | connecting => exact E.reset (by rw [hst]; decide)
  | connected =>
    dsimp only
    rw [Act.run_bind, Act.run_bind]
    exact E.hangUp hst
  | disconnecting => exact E.enter_closed
  | closed | waiting => exact E

/-- Reaction to a NUL. -/
theorem onNul (E : Shifted a b rcv e e') {c c' : Common} (hc : Common.Moved b a c c')
    (hrcv : rcv = some c) :
    Shifted a b rcv ((Act.onNul c).run e).2 ((Act.onNul c').run e').2 := by
  unfold Act.onNul
  rw [Act.run_bind, Act.run_bind, Act.run_session, Act.run_session, E.session.state]
  cases hst : e.session.state with
  | closed | waiting => exact E.replyRst hc hrcv
  | connecting =>
    dsimp only
    have hne : e.session.state ≠ .closed := by rw [hst]; decide
    refine E.acknowledgesSyn_then hne hc (fun _ ↦ ?_) fun _ ↦ E.replyRst hc hrcv
    rw [Act.run_bind, Act.run_bind]
    exact (E.establish hne (E.session.accepted (.inl hst))).nulArrives
      (by rw [Act.run_establish, Act.state_enter]) hc
  | connected => exact E.nulArrives hst hc
  | initiating | disconnecting => exact E

/-- Reaction to an extended acknowledgment. -/
theorem onEack (E : Shifted a b rcv e e') {c c' : Common} (hc : Common.Moved b a c c')
    (hrcv : rcv = some c) (acks : List UInt16) (payload : Bytes) :
    Shifted a b rcv ((Act.onEack c acks payload).run e).2
      ((Act.onEack c' (acks.map (· + a)) payload).run e').2 := by
  unfold Act.onEack
  rw [Act.run_bind, Act.run_bind, Act.run_session, Act.run_session, E.session.state]
  cases hst : e.session.state with
  | closed | waiting => exact E.replyRst hc hrcv
  | connecting =>
    dsimp only
    rw [Act.run_bind, Act.run_bind]
    exact (E.replyRst hc hrcv).reset (by rw [(Act.spoken_replyRst e c).state, hst]; decide)
  | connected => exact E.segmentArrives hst hc acks payload
  | initiating | disconnecting => exact E

/-- Reaction to a plain acknowledgment. -/
theorem onAck (E : Shifted a b rcv e e') {c c' : Common} (hc : Common.Moved b a c c')
    (hrcv : rcv = some c) (payload : Bytes) :
    Shifted a b rcv ((Act.onAck c payload).run e).2 ((Act.onAck c' payload).run e').2 := by
  unfold Act.onAck
  rw [Act.run_bind, Act.run_bind, Act.run_session, Act.run_session, E.session.state]
  cases hst : e.session.state with
  | closed | waiting => exact E.replyRst hc hrcv
  | connecting =>
    dsimp only
    have hne : e.session.state ≠ .closed := by rw [hst]; decide
    refine E.acknowledgesSyn_then hne hc (fun _ ↦ ?_) fun _ ↦ E.replyRst hc hrcv
    rw [Act.run_bind, Act.run_bind]
    exact (E.establish hne (E.session.accepted (.inl hst))).segmentArrives
      (by rw [Act.run_establish, Act.state_enter]) hc [] payload
  | connected => exact E.segmentArrives hst hc [] payload
  | initiating | disconnecting => exact E

/-- Reaction to the event's segment, whose numbers are moved as the peer sends them. -/
theorem onSegment (E : Shifted a b rcv e e') {seg seg' : Segment}
    (hm : Header.MovedIn a b seg.header seg'.header) (hpl : seg'.payload = seg.payload)
    (hrcv : rcv = some seg.header.common) :
    Shifted a b rcv ((Act.onSegment seg).run e).2 ((Act.onSegment seg').run e').2 := by
  obtain ⟨h, payload⟩ := seg
  obtain ⟨h', payload'⟩ := seg'
  dsimp only at hm hpl
  subst payload'
  cases hm with
  | syn config hc => exact E.onSyn hc hrcv config
  | rst hc => exact E.onRst
  | nul hc => exact E.onNul hc hrcv
  | ack n hc => exact E.onAck hc hrcv payload
  | eack n acks hc => exact E.onEack hc hrcv acks payload

/-- Reaction to a datagram that decodes to the event's segment, in the other run to the moved
segment. -/
theorem receive (E : Shifted a b rcv e e') {d d' : Bytes} {seg seg' : Segment}
    (hp : Segment.parse d = .ok seg) (hp' : Segment.parse d' = .ok seg')
    (hm : Header.MovedIn a b seg.header seg'.header) (hpl : seg'.payload = seg.payload)
    (hrcv : rcv = some seg.header.common) :
    Shifted a b rcv ((Act.receive d).run e).2 ((Act.receive d').run e').2 := by
  -- moving the numbers keeps the length, which is all the size check reads
  have hlen : d'.length = d.length := by
    rw [Segment.length_of_parse hp, Segment.length_of_parse hp', hm.size_eq, hpl]
  unfold Act.receive
  rw [Act.run_bind, Act.run_bind, Act.run_info, Act.run_info, E.session.config, hlen]
  dsimp only
  split_ifs
  · exact E
  · rw [hp, hp']
    exact E.onSegment hm hpl hrcv

/-! ### Wake-ups -/

/-- Honouring a handshake wake-up touches the wake-ups alone. -/
theorem state_handshakeTimeout (e : Endpoint) (h : Handle) :
    ((Act.handshakeTimeout h).run e).2.session.state = e.session.state := by
  rw [Act.run_handshakeTimeout]
  split_ifs
  · rfl
  · rfl
  · rw [Act.run_rearmHandshake]

/-- A handshake wake-up, while opening, resends the same SYN or gives up alike. -/
theorem handshakeFired (E : Shifted a b rcv e e') (h : Handle) (k k' : Act Unit)
    (hk : ∀ {e₁ e₁' : Endpoint}, Shifted a b rcv e₁ e₁' → e₁.session.state = e.session.state →
      Shifted a b rcv (k.run e₁).2 (k'.run e₁').2) (hne : e.session.state ≠ .closed) :
    Shifted a b rcv
      ((do
        match ← Act.handshakeTimeout h with
        | some true => k
        | some false => Act.reset
        | none => pure () : Act Unit).run e).2
      ((do
        match ← Act.handshakeTimeout h with
        | some true => k'
        | some false => Act.reset
        | none => pure () : Act Unit).run e').2 := by
  have E₁ := E.handshakeTimeout h
  have hst₁ := state_handshakeTimeout e h
  rw [Act.run_bind, Act.run_bind, E.handshakeTimeout_fst h]
  rcases hr : ((Act.handshakeTimeout h).run e).1 with _ | _ | _
  · exact E₁
  · exact E₁.reset (by rw [hst₁]; exact hne)
  · exact hk E₁ hst₁

/-- A wake-up for a retransmission `a` further on, or for the same other timer, is honoured
alike. -/
theorem timerFired (E : Shifted a b rcv e e') (h : Handle) (timer : Timer) :
    Shifted a b rcv ((Act.timerFired h timer).run e).2 ((Act.timerFired h (timer.shift a)).run e').2 := by
  unfold Act.timerFired
  rw [Act.run_bind, Act.run_bind, Act.run_session, Act.run_session, E.session.state]
  cases hst : e.session.state <;> cases timer <;> dsimp only [Timer.shift]
  case connected.retransmission seq =>
    obtain ⟨hfst, E₁⟩ := E.retransmitFired seq h
    have hst₁ := (Act.keeps_retransmitFired e seq h).1
    rw [Act.run_bind, Act.run_bind, hfst]
    cases ((Act.retransmitFired seq h).run e).1
    · -- a segment still unacknowledged ran out of retries: the connection ends
      simp only [Bool.not_false, ↓reduceIte, Act.run_bind]
      exact E₁.hangUp (by rw [hst₁, hst])
    · exact E₁
  case connected.keepAlive =>
    obtain ⟨hsend, hrecv⟩ := E.numbers_of_connected hst
    exact E.keepAliveFired hsend hrecv h
  case initiating.handshake =>
    refine E.handshakeFired h _ _ (fun E₁ hst₁ ↦ ?_) (by rw [hst]; decide)
    exact E₁.sendSyn (E₁.sendShifted (by rw [hst₁, hst]; decide)) none
  case connecting.handshake =>
    refine E.handshakeFired h _ _ (fun {e₁ e₁'} E₁ hst₁ ↦ ?_) (by rw [hst]; decide)
    rw [Act.run_bind, Act.run_bind, Act.run_info, Act.run_info,
      (E₁.receiveShifted (.inl (by rw [hst₁, hst]))).receiveAcked]
    exact E₁.sendSyn (E₁.sendShifted (by rw [hst₁, hst]; decide)) (some e₁.session.info.receiveAcked)
  case disconnecting.disconnect =>
    rw [E.session.timers]
    split_ifs
    · rw [Act.run_bind, Act.run_bind, Act.run_modifyTimers, Act.run_modifyTimers, E.session.timers]
      exact (E.setTimers _).enter_closed
    · exact E
  all_goals exact E

/-! ### Intents -/

/-- Starting from initial numbers `a` apart puts this side's numbers in step. -/
theorem start_sendShifted (iss : UInt16) (passive : Bool) :
    Info.SendShifted a ((Act.start iss passive).run e).2.session.info
      ((Act.start (iss + a) passive).run e').2.session.info := by
  rw [Act.run_start, Act.run_start]
  exact ⟨rfl, Seq.add_right_comm _ _ _, rfl⟩

theorem connect (E : Shifted a b rcv e e') (iss : UInt16) :
    Shifted a b rcv ((Act.connect iss).run e).2 ((Act.connect (iss + a)).run e').2 := by
  unfold Act.connect
  rw [Act.run_bind, Act.run_bind, Act.run_session, Act.run_session, E.session.state]
  dsimp only
  by_cases hst : e.session.state = .closed
  · rw [if_pos hst, if_pos hst, Act.run_bind, Act.run_bind]
    exact (E.start hst iss false).enter .initiating (fun _ ↦ start_sendShifted iss false)
      fun h ↦ by simp at h
  · rw [if_neg hst, if_neg hst]
    exact E

theorem wait (E : Shifted a b rcv e e') (iss : UInt16) :
    Shifted a b rcv ((Act.wait iss).run e).2 ((Act.wait (iss + a)).run e').2 := by
  unfold Act.wait
  rw [Act.run_bind, Act.run_bind, Act.run_session, Act.run_session, E.session.state]
  dsimp only
  by_cases hst : e.session.state = .closed
  · rw [if_pos hst, if_pos hst, Act.run_bind, Act.run_bind]
    exact (E.start hst iss true).enter .waiting (fun _ ↦ start_sendShifted iss true)
      fun h ↦ by simp at h
  · rw [if_neg hst, if_neg hst]
    exact E

theorem close (E : Shifted a b rcv e e') : Shifted a b rcv (Act.close.run e).2 (Act.close.run e').2 := by
  unfold Act.close
  rw [Act.run_bind, Act.run_bind, Act.run_session, Act.run_session, E.session.state]
  cases hst : e.session.state with
  | waiting => exact E.enter_closed
  | initiating =>
    rw [Act.run_bind e, Act.run_bind e', Act.run_info, Act.run_info,
      (E.sendShifted (by rw [hst]; decide)).sendNext]
    have hh := Header.buildRst_shiftOut a b 0 e.session.info.sendNext none
    rw [Option.map_none] at hh
    rw [← hh]
    exact (E.transmit _).enter_closed
  | connecting =>
    rw [Act.run_bind e, Act.run_bind e']
    have E₁ := E.sendRst (E.sendShifted (by rw [hst]; decide)) (E.receiveShifted (.inl hst))
    exact E₁.enter_closed
  | connected =>
    rw [Act.run_bind e, Act.run_bind e']
    exact E.hangUp hst
  | closed | disconnecting => exact E

theorem invalidate (E : Shifted a b rcv e e') :
    Shifted a b rcv (Act.invalidate.run e).2 (Act.invalidate.run e').2 :=
  E.enter_closed

/-- A payload is offered alike: the same answer, and corresponding endpoints. -/
theorem send (E : Shifted a b rcv e e') (payload : Bytes) :
    ((Act.send payload).run e').1 = ((Act.send payload).run e).1 ∧
      Shifted a b rcv ((Act.send payload).run e).2 ((Act.send payload).run e').2 := by
  unfold Act.send
  rw [Act.run_bind, Act.run_bind, Act.run_session, Act.run_session, E.session.state]
  dsimp only
  by_cases hst : e.session.state = .connected
  · rw [if_pos hst]
    exact E.sendData hst payload
  · rw [if_neg hst]
    exact ⟨rfl, E⟩

/-- A datagram that does not decode leaves an endpoint as it is. -/
theorem receive_of_error (e : Endpoint) {d : Bytes} {err : ParseError}
    (hp : Segment.parse d = .error err) : ((Act.receive d).run e).2 = e := by
  unfold Act.receive
  rw [Act.run_bind, Act.run_info]
  dsimp only
  split_ifs
  · rfl
  · rw [hp]
    rfl

/-- A datagram that decodes in neither run is dropped in both. -/
theorem receive_garbled (E : Shifted a b rcv e e') {d d' : Bytes} {err err' : ParseError}
    (hp : Segment.parse d = .error err) (hp' : Segment.parse d' = .error err') :
    Shifted a b rcv ((Act.receive d).run e).2 ((Act.receive d').run e').2 := by
  rw [receive_of_error e hp, receive_of_error e' hp']
  exact E

end Endpoint.Shifted

/-! ### Runs -/

/-- Two events alike but for the numbers, as a side sees them whose own numbers are `a` further
on and whose peer's are `b` further on: an opening from an initial number `a` further on, a
datagram that decodes to a segment received as moved with the same payload, or one that decodes
in neither run, and a wake-up for a retransmission `a` further on. -/
inductive Event.Shifted (a b : UInt16) : Event → Event → Prop
  | connect (iss : UInt16) : Shifted a b (.connect iss) (.connect (iss + a))
  | wait (iss : UInt16) : Shifted a b (.wait iss) (.wait (iss + a))
  | close : Shifted a b .close .close
  | invalidate : Shifted a b .invalidate .invalidate
  | send (payload : Bytes) : Shifted a b (.send payload) (.send payload)
  | receive {d d' : Bytes} {seg seg' : Segment} : Segment.parse d = .ok seg →
      Segment.parse d' = .ok seg' → Header.MovedIn a b seg.header seg'.header →
      seg'.payload = seg.payload → Shifted a b (.receive d) (.receive d')
  | garbled {d d' : Bytes} {err err' : ParseError} : Segment.parse d = .error err →
      Segment.parse d' = .error err' → Shifted a b (.receive d) (.receive d')
  | fire (h : Handle) (timer : Timer) : Shifted a b (.fire h timer) (.fire h (timer.shift a))

namespace Event

/-- The common part of the segment an event hands to the session: that of the datagram it
receives, when the datagram decodes. -/
def received : Event → Option Common
  | connect _ => none
  | wait _ => none
  | close => none
  | invalidate => none
  | send _ => none
  | receive datagram => (Segment.parse datagram).toOption.map (·.header.common)
  | fire _ _ => none

theorem received_of_parse {d : Bytes} {seg : Segment} (hp : Segment.parse d = .ok seg) :
    (receive d).received = some seg.header.common := by
  rw [received, hp]
  rfl

end Event

namespace Endpoint.Shifted

variable {a b : UInt16} {rcv : Option Common} {e e' : Endpoint} {ev ev' : Event}

/-- The host clears the effects alike, and forgets a delivered wake-up alike; the effects to
come answer the event's segment. -/
theorem prepare (E : Shifted a b rcv e e') (hev : Event.Shifted a b ev ev') :
    Shifted a b ev.received (e.prepare ev) (e'.prepare ev') := by
  cases hev with
  | fire h timer =>
    refine ⟨E.session, ?_, .nil⟩
    rw [Endpoint.prepare, Endpoint.prepare, E.schedule, Schedule.deliver_shift]
  | _ => exact ⟨E.session, E.schedule, .nil⟩

/-- Step lemma: one event and its moved counterpart keep the two endpoints in step, the effects
of the event answering its segment. -/
theorem handle (E : Shifted a b rcv e e') (hev : Event.Shifted a b ev ev') :
    Shifted a b ev.received (e.handle ev) (e'.handle ev') := by
  have P := E.prepare hev
  cases hev with
  | connect iss => exact P.connect iss
  | wait iss => exact P.wait iss
  | close => exact P.close
  | invalidate => exact P.invalidate
  | send payload =>
    simp only [Endpoint.handle, Event.act, Act.run_bind, Act.run_pure]
    exact (P.send payload).2
  | receive hp hp' hm hpl => exact P.receive hp hp' hm hpl (Event.received_of_parse hp)
  | garbled hp hp' => exact P.receive_garbled hp hp'
  | fire h timer => exact P.timerFired h timer

/-- A fresh session is in step with itself: it is closed, knows no peer and holds no window. -/
theorem fresh {c : Config} {s : Session} (hs : Session.new c = .ok s) :
    Shifted a b rcv { session := s } { session := s } := by
  obtain rfl := Session.eq_of_new hs
  refine ⟨⟨rfl, rfl, rfl, rfl, fun h ↦ absurd rfl h, fun h ↦ by simp at h, fun h ↦ by simp at h,
    rfl, rfl, .none, .none, fun h ↦ by simp at h⟩, rfl, .nil⟩

end Endpoint.Shifted

namespace Endpoint

end Endpoint

end ReliableDatagram
