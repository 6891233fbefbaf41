import ReliableDatagram.Proofs.Talk
/-!
# The state diagram

A session changes state only along the edges of its state diagram (`State.Move`): it opens
from `closed`, actively to `initiating` or passively to `waiting`; the handshake leads through
`connecting` or straight from `initiating` to `connected`; a failed handshake falls back to
`waiting` for a passive opener and to `closed` otherwise; a connection ends through
`disconnecting`, or at once in `closed`.

The main statement, `Endpoint.Reachable.moves_along_diagram`, says that each event a host hands
a session makes at most one change of state, an edge of the diagram, that the application is
told of it exactly once and with the new state, that the passive flag records how the session
was last opened, so that only a passive opener ever waits, and that opening a session that is
not closed changes nothing.

Within an event, the actions that speak, arm wake-ups or move data keep the state
(`Endpoint.Unmoved`); only `enter` changes it, and each handler enters at most once
(`Endpoint.Went`). The one fact about the past it needs is that an initiating session was
opened actively, so that giving up returns it to `closed` (`Endpoint.OpenedRight`).
-/

namespace ReliableDatagram

namespace State

/-- The edges of the state diagram. -/
inductive Move : State → State → Prop
  /-- An active open sends a SYN. -/
  | connect : Move .closed .initiating
  /-- A passive open waits for one. -/
  | wait : Move .closed .waiting
  /-- A waiting session answers a SYN. -/
  | answer : Move .waiting .connecting
  /-- A waiting session is closed. -/
  | stopWaiting : Move .waiting .closed
  /-- The peer's SYN crosses ours. -/
  | cross : Move .initiating .connecting
  /-- The peer acknowledges our SYN with its own. -/
  | synAcked : Move .initiating .connected
  /-- An active opener gives up. -/
  | refused : Move .initiating .closed
  /-- The peer acknowledges our SYN. -/
  | acked : Move .connecting .connected
  /-- A passive opener falls back to waiting. -/
  | fallBack : Move .connecting .waiting
  /-- The handshake is given up for good. -/
  | abandon : Move .connecting .closed
  /-- A reset starts the grace period. -/
  | hangUp : Move .connected .disconnecting
  /-- The connection is dropped at once. -/
  | drop : Move .connected .closed
  /-- The grace period ends. -/
  | finish : Move .disconnecting .closed

/-- Every state but `closed` has an edge to `closed`. -/
theorem move_closed : ∀ {st : State}, st ≠ .closed → st.Move .closed
  | .closed, h => absurd rfl h
  | .waiting, _ => .stopWaiting
  | .initiating, _ => .refused
  | .connecting, _ => .abandon
  | .connected, _ => .drop
  | .disconnecting, _ => .finish

end State

namespace Effect

/-- The state an effect reports entering. -/
def entered? : Effect → Option State
  | entered st => some st
  | _ => none

/-- The states a list of effects reports entering, in order. -/
def statesEntered (es : List Effect) : List State :=
  es.filterMap entered?

@[simp] theorem statesEntered_nil : statesEntered [] = [] := rfl

@[simp] theorem statesEntered_append (es es' : List Effect) :
    statesEntered (es ++ es') = statesEntered es ++ statesEntered es' :=
  List.filterMap_append

@[simp] theorem statesEntered_transmit (d : Bytes) : statesEntered [.transmit d] = [] := rfl

@[simp] theorem statesEntered_deliver (p : Bytes) : statesEntered [.deliver p] = [] := rfl

@[simp] theorem statesEntered_accepted (n : UInt16) : statesEntered [.accepted n] = [] := rfl

@[simp] theorem statesEntered_entered (st : State) : statesEntered [.entered st] = [st] := rfl

end Effect

/-- How an event opens a closed session: passively (`some true`), actively (`some false`), or
not at all. -/
def Event.opensPassive : Event → Option Bool
  | .connect _ => some false
  | .wait _ => some true
  | _ => none

namespace Endpoint

open Effect

/-- `e'` follows `e` within an event without a change of state: the state and the passive flag
stay, and no state is reported. -/
structure Unmoved (e e' : Endpoint) : Prop where
  state : e'.session.state = e.session.state
  passive : e'.session.info.passive = e.session.info.passive
  entered : statesEntered e'.effects = statesEntered e.effects

/-- An initiating session was opened actively, and a waiting one passively. -/
structure OpenedRight (e : Endpoint) : Prop where
  initiating : e.session.state = .initiating → e.session.info.passive = false
  waiting : e.session.state = .waiting → e.session.info.passive = true

/-- `e'` follows `e` within an event by at most one change of state, an edge of the diagram,
reported once with the new state; a session it brings to `initiating` or `waiting` was opened
that way. -/
structure Went (e e' : Endpoint) : Prop where
  passive : e'.session.info.passive = e.session.info.passive
  entered : statesEntered e'.effects = statesEntered e.effects ++
    if e'.session.state = e.session.state then [] else [e'.session.state]
  move : e'.session.state ≠ e.session.state → e.session.state.Move e'.session.state
  right : e'.session.state ≠ e.session.state → e'.OpenedRight

namespace Unmoved

variable {e₁ e₂ e₃ : Endpoint}

theorem refl (e : Endpoint) : Unmoved e e := ⟨rfl, rfl, rfl⟩

theorem trans (h₁ : Unmoved e₁ e₂) (h₂ : Unmoved e₂ e₃) : Unmoved e₁ e₃ :=
  ⟨h₂.state.trans h₁.state, h₂.passive.trans h₁.passive, h₂.entered.trans h₁.entered⟩

theorem of_sameTalk (h : SameTalk e₁ e₂) : Unmoved e₁ e₂ :=
  ⟨h.1, by rw [h.2.1], by rw [h.2.2.2.2]⟩

/-- Staying put is going nowhere. -/
theorem went (h : Unmoved e₁ e₂) : Went e₁ e₂ where
  passive := h.passive
  entered := by rw [if_pos h.state, List.append_nil, h.entered]
  move hne := absurd h.state hne
  right hne := absurd h.state hne

/-- Staying put before a change of state. -/
theorem went_of (h₁ : Unmoved e₁ e₂) (h₂ : Went e₂ e₃) : Went e₁ e₃ where
  passive := h₂.passive.trans h₁.passive
  entered := by rw [h₂.entered, h₁.entered, h₁.state]
  move := by rw [← h₁.state]; exact h₂.move
  right := by rw [← h₁.state]; exact h₂.right

end Unmoved

theorem OpenedRight.of_unmoved {e e' : Endpoint} (h : e.OpenedRight) (hu : Unmoved e e') :
    e'.OpenedRight where
  initiating hi := hu.passive.trans (h.initiating (hu.state ▸ hi))
  waiting hw := hu.passive.trans (h.waiting (hu.state ▸ hw))

/-- Staying put after a change of state. -/
theorem Went.unmoved {e₁ e₂ e₃ : Endpoint} (h₁ : Went e₁ e₂) (h₂ : Unmoved e₂ e₃) : Went e₁ e₃ where
  passive := h₂.passive.trans h₁.passive
  entered := by rw [h₂.entered, h₁.entered, h₂.state]
  move := by rw [h₂.state]; exact h₁.move
  right hne := (h₁.right (h₂.state ▸ hne)).of_unmoved h₂

/-- A session that went somewhere in an event, other than by being opened, was opened the way
its new state says when it was before. -/
theorem Went.openedRight {e e' : Endpoint} (hw : Went e e') (h : e.OpenedRight) : e'.OpenedRight := by
  by_cases hs : e'.session.state = e.session.state
  · exact h.of_unmoved ⟨hs, hw.passive, by rw [hw.entered, if_pos hs, List.append_nil]⟩
  · exact hw.right hs

end Endpoint

/-! ### Actions that keep the state -/

namespace Act

open Endpoint Effect

variable (e : Endpoint)

theorem unmoved_transmit (h : Header) : Unmoved e ((transmit h).run e).2 := by
  rw [run_transmit]
  split
  · exact ⟨rfl, rfl, by simp⟩
  · exact Unmoved.refl e

theorem unmoved_sendSyn (ack : Option UInt16) : Unmoved e ((sendSyn ack).run e).2 := by
  rw [run_sendSyn]
  exact unmoved_transmit e _

theorem unmoved_sendRst : Unmoved e (sendRst.run e).2 := by
  rw [run_sendRst]
  exact unmoved_transmit e _

theorem unmoved_sendAck : Unmoved e (sendAck.run e).2 := by
  rw [run_sendAck]
  exact unmoved_transmit e _

theorem unmoved_replyRst (c : Common) : Unmoved e ((replyRst c).run e).2 := by
  rw [run_replyRst]
  split
  · exact unmoved_transmit e _
  · exact Unmoved.refl e

theorem unmoved_leave (st : State) : Unmoved e ((leave st).run e).2 :=
  .of_sameTalk (sameTalk_leave e st)

/-- Arriving in a state sends and arms what the state needs, and opens or drops the windows;
the state and the passive flag stay, and nothing is reported. -/
theorem unmoved_arrive (next : State) : Unmoved e ((arrive next).run e).2 := by
  cases next with
  | closed | waiting =>
    refine ⟨state_arrive e _, ?_, ?_⟩
    · rw [session_arrive_quiet e (by simp)]
    · first
        | rw [run_arrive_closed, run_dropWindows]
        | rw [run_arrive_waiting, run_dropWindows]
      rw [(sameTalk_cancelRetransmissions _).2.2.2.2, (sameTalk_cancelAllTimers e).2.2.2.2]
  | initiating =>
    rw [run_arrive_initiating]
    exact (unmoved_sendSyn e _).trans (.of_sameTalk (sameTalk_armHandshake _))
  | connecting =>
    rw [run_arrive_connecting]
    exact (unmoved_sendSyn e _).trans (.of_sameTalk (sameTalk_armHandshake _))
  | connected =>
    rw [run_arrive_connected]
    have hopen : Unmoved e (openWindows.run e).2 := by
      rw [run_openWindows]
      exact ⟨rfl, rfl, rfl⟩
    split
    · exact hopen
    · exact hopen.trans (.of_sameTalk (sameTalk_armKeepAlive _))
  | disconnecting =>
    rw [run_arrive_disconnecting]
    exact .of_sameTalk (sameTalk_armDisconnect e)

/-- Entering a state is one change of state, reported once, unless the session is already
there. -/
theorem went_enter {next : State} (hm : e.session.state ≠ next → e.session.state.Move next)
    (hi : next = .initiating → e.session.info.passive = false)
    (hw : next = .waiting → e.session.info.passive = true) :
    Went e ((enter next).run e).2 := by
  rw [run_enter]
  split
  · exact (Unmoved.refl e).went
  · rename_i hne
    dsimp only
    have hl := unmoved_leave e e.session.state
    have ha := unmoved_arrive { ((leave e.session.state).run e).2 with
      session := { ((leave e.session.state).run e).2.session with state := next } } next
    have hst : ((arrive next).run { ((leave e.session.state).run e).2 with
        session := { ((leave e.session.state).run e).2.session with state := next } }).2.session.state =
        next := ha.state
    have hp := ha.passive.trans hl.passive
    refine ⟨hp, ?_, ?_, ?_⟩
    · rw [hst, if_neg (Ne.symm hne), statesEntered_append, ha.entered, hl.entered,
        statesEntered_entered]
    · rw [hst]
      exact fun _ ↦ hm hne
    · intro _
      constructor
      · rw [hst, hp]
        exact hi
      · rw [hst, hp]
        exact hw

/-! ### Moving data keeps the state -/

theorem unmoved_acknowledge (ack : UInt16) : Unmoved e ((acknowledge ack).run e).2 :=
  acknowledge_cases e ack (Unmoved.refl e) fun _ _ _ _ _ ↦ ⟨rfl, rfl, rfl⟩

theorem unmoved_acknowledgeEach (acks : List UInt16) :
    Unmoved e ((acknowledgeEach acks).run e).2 :=
  acknowledgeEach_induction e acks (Unmoved.refl e) fun _ _ _ _ _ _ _ h ↦ h.trans ⟨rfl, rfl, rfl⟩

theorem unmoved_drainHeld (fuel : Nat) : Unmoved e ((drainHeld fuel).run e).2 :=
  drainHeld_induction e fuel (Unmoved.refl e) (fun _ _ _ _ _ _ h ↦ h.trans ⟨rfl, rfl, by simp⟩)
    fun _ _ _ _ h ↦ h.trans ⟨rfl, rfl, rfl⟩

theorem unmoved_deliver (seq : UInt16) (payload : Bytes) :
    Unmoved e ((deliver seq payload).run e).2 := by
  rw [run_deliver]
  refine Unmoved.trans ?_ (unmoved_drainHeld _ _)
  exact ⟨rfl, rfl, by simp⟩

theorem unmoved_segmentArrives (c : Common) (acks : List UInt16) (payload : Bytes) :
    Unmoved e ((segmentArrives c acks payload).run e).2 := by
  rw [run_segmentArrives]
  split
  · dsimp only
    -- the acknowledgments first, then the payload, delivered or held, and the answer
    have h₁ : Unmoved e (if c.flags.has .ack then ((acknowledge c.ack).run e).2 else e) := by
      split
      · exact unmoved_acknowledge e c.ack
      · exact Unmoved.refl e
    generalize (if c.flags.has .ack then ((acknowledge c.ack).run e).2 else e) = e₁ at h₁ ⊢
    have h₂ : Unmoved e (if acks.isEmpty then e₁ else ((acknowledgeEach acks).run e₁).2) := by
      split
      · exact h₁
      · exact h₁.trans (unmoved_acknowledgeEach e₁ acks)
    generalize (if acks.isEmpty then e₁ else ((acknowledgeEach acks).run e₁).2) = e₂ at h₂ ⊢
    split
    · exact h₂
    · refine Unmoved.trans ?_ (unmoved_sendAck _)
      split
      · exact h₂.trans (unmoved_deliver e₂ _ _)
      · split
        · split
          · exact h₂.trans ⟨rfl, rfl, rfl⟩
          · exact h₂
        · exact h₂
  · exact unmoved_sendAck e

theorem unmoved_nulArrives (c : Common) : Unmoved e ((nulArrives c).run e).2 := by
  rw [run_nulArrives]
  refine Unmoved.trans ?_ (unmoved_sendAck _)
  split
  · exact unmoved_acknowledge e c.ack
  · exact Unmoved.refl e

theorem unmoved_sendData (payload : Bytes) : Unmoved e ((sendData payload).run e).2 := by
  rcases run_sendData e payload with ⟨err, hr⟩ | ⟨r, ring, queue, hdr, bytes, -, -, -, -, -, -, -, hr⟩
  · rw [hr]
    exact Unmoved.refl e
  · rw [hr]
    exact ⟨rfl, rfl, by simp [statesEntered, entered?]⟩

theorem unmoved_retransmitFired (seq : UInt16) (h : Handle) :
    Unmoved e ((retransmitFired seq h).run e).2 :=
  retransmitFired_cases e seq h (Unmoved.refl e) fun _ _ _ _ ↦
    ⟨⟨rfl, rfl, rfl⟩, fun _ h ↦ h.trans ⟨rfl, rfl, by simp⟩⟩

theorem unmoved_keepAliveFired (h : Handle) : Unmoved e ((keepAliveFired h).run e).2 := by
  rw [run_keepAliveFired]
  split
  · exact Unmoved.refl e
  · dsimp only
    refine Unmoved.trans ?_ (.of_sameTalk (sameTalk_armKeepAlive _))
    have h₁ : Unmoved e { e with
        session := { e.session with timers := { e.session.timers with keepAlive := none } } } :=
      ⟨rfl, rfl, rfl⟩
    split
    · exact h₁.trans (unmoved_transmit _ _)
    · exact h₁

theorem unmoved_handshakeTimeout (h : Handle) : Unmoved e ((handshakeTimeout h).run e).2 := by
  rw [run_handshakeTimeout]
  split
  · exact Unmoved.refl e
  · split
    · exact ⟨rfl, rfl, rfl⟩
    · dsimp only
      rw [run_rearmHandshake]
      exact ⟨rfl, rfl, rfl⟩

/-! ### Giving up and completing the handshake -/

/-- Giving up is an edge of the diagram from each opening state: a passive opener waits
again, an active one closes. -/
theorem went_reset (h : e.OpenedRight)
    (hs : e.session.state = .waiting ∨ e.session.state = .initiating ∨
      e.session.state = .connecting) :
    Went e (reset.run e).2 := by
  rw [run_reset]
  refine went_enter e (fun hne ↦ ?_) (by split <;> simp) (by split <;> simp_all)
  rcases hs with hs | hs | hs <;> rw [hs] at hne ⊢
  · -- a waiting session is passive, so it stays where it is
    simp [h.waiting hs] at hne
  · rw [h.initiating hs]
    exact .refused
  · split
    exacts [.fallBack, .abandon]

/-- An RST in answer to a segment, then giving up. -/
theorem went_refuse (h : e.OpenedRight) (c : Common)
    (hs : e.session.state = .waiting ∨ e.session.state = .initiating ∨
      e.session.state = .connecting) :
    Went e (reset.run ((replyRst c).run e).2).2 := by
  have hu := unmoved_replyRst e c
  refine hu.went_of (went_reset _ (h.of_unmoved hu) ?_)
  rwa [hu.state]

/-- Completing the handshake moves an opening session to `connected`. -/
theorem went_establish (hs : e.session.state = .initiating ∨ e.session.state = .connecting) :
    Went e (establish.run e).2 := by
  rw [run_establish]
  refine Unmoved.went_of ?_ (@went_enter _ .connected (fun _ ↦ ?_) nofun nofun)
  · exact ⟨rfl, rfl, rfl⟩
  · show e.session.state.Move .connected
    rcases hs with hs | hs <;> rw [hs]
    exacts [.synAcked, .acked]

/-- Recording the peer's configuration moves nothing. -/
theorem unmoved_accepted (c : Common) (config : Config) :
    Unmoved e { e with session := { e.session with info := { e.session.info with
      remote := some config, receiveInitial := c.seq, receiveAcked := c.seq } } } :=
  ⟨rfl, rfl, rfl⟩

end Act

/-! ### Reactions -/

namespace Endpoint

open Act Effect

variable (e : Endpoint)

theorem went_onSyn (h : e.OpenedRight) (c : Common) (config : Config) :
    Went e ((onSyn c config).run e).2 := by
  refine onSyn_cases (motive := Went e) e c config (fun _ ↦ (unmoved_replyRst e c).went) ?answered
    ?crossed (went_refuse e h c) (fun hst _ _ ↦ (went_establish e (.inr hst)).unmoved (unmoved_sendAck _))
    (fun _ _ _ ↦ (unmoved_sendSyn e _).went) (fun _ _ ↦ (unmoved_sendAck e).went) ?dropped
    (fun _ ↦ (Unmoved.refl e).went)
  case answered =>
    intro hs _ _
    refine (unmoved_accepted e c config).went_of (went_enter _ (fun _ ↦ ?_) (by simp) (by simp))
    show e.session.state.Move .connecting
    rcases hs with hs | hs <;> rw [hs]
    exacts [.answer, .cross]
  case crossed =>
    intro hst _ _
    refine (unmoved_accepted e c config).went_of ((went_establish _ ?_).unmoved (unmoved_sendAck _))
    exact .inl hst
  case dropped =>
    intro hst _
    refine (unmoved_replyRst e c).went_of (went_enter _ (fun _ ↦ ?_) (by simp) (by simp))
    rw [(unmoved_replyRst e c).state, hst]
    exact .drop

theorem went_onRst (h : e.OpenedRight) : Went e (onRst.run e).2 := by
  refine onRst_cases (motive := Went e) e (fun hs ↦ went_reset e h (.inr hs)) ?hungUp ?finished
    (fun _ ↦ (Unmoved.refl e).went)
  case hungUp =>
    intro hst
    refine (unmoved_sendRst e).went_of (went_enter _ (fun _ ↦ ?_) nofun nofun)
    rw [(unmoved_sendRst e).state, hst]
    exact .hangUp
  case finished =>
    intro hst
    refine went_enter e (fun _ ↦ ?_) nofun nofun
    rw [hst]
    exact .finish

theorem went_onNul (c : Common) : Went e ((onNul c).run e).2 :=
  onNul_cases (motive := Went e) e c (fun _ ↦ (unmoved_replyRst e c).went)
    (fun hst _ ↦ (went_establish e (.inr hst)).unmoved (unmoved_nulArrives _ c))
    (fun _ _ ↦ (unmoved_replyRst e c).went) (fun _ ↦ (unmoved_nulArrives e c).went)
    (fun _ ↦ (Unmoved.refl e).went)

theorem went_onEack (h : e.OpenedRight) (c : Common) (acks : List UInt16) (payload : Bytes) :
    Went e ((onEack c acks payload).run e).2 :=
  onEack_cases (motive := Went e) e c acks payload (fun _ ↦ (unmoved_replyRst e c).went)
    (fun hst ↦ went_refuse e h c (.inr (.inr hst)))
    (fun _ ↦ (unmoved_segmentArrives e c acks payload).went) (fun _ ↦ (Unmoved.refl e).went)

theorem went_onAck (c : Common) (payload : Bytes) : Went e ((onAck c payload).run e).2 :=
  onAck_cases (motive := Went e) e c payload (fun _ ↦ (unmoved_replyRst e c).went)
    (fun hst _ ↦ (went_establish e (.inr hst)).unmoved (unmoved_segmentArrives _ c [] payload))
    (fun _ _ ↦ (unmoved_replyRst e c).went) (fun _ ↦ (unmoved_segmentArrives e c [] payload).went)
    (fun _ ↦ (Unmoved.refl e).went)

theorem went_receive (h : e.OpenedRight) (datagram : Bytes) :
    Went e ((receive datagram).run e).2 := by
  refine receive_cases e datagram (Unmoved.refl e).went fun seg _ _ ↦ ?_
  unfold onSegment
  split
  · exact went_onSyn e h _ _
  · exact went_onRst e h
  · exact went_onNul e _
  · exact went_onAck e _ _
  · exact went_onEack e h _ _ _

/-- The handshake wake-up of an opening session: a retry keeps the state, giving up is an edge
of the diagram. -/
theorem went_handshakeFired (h : e.OpenedRight) (hd : Handle) (retry : Act Unit)
    (hs : e.session.state = .initiating ∨ e.session.state = .connecting)
    (hr : ∀ e', Unmoved e' (retry.run e').2) :
    Went e ((do
      match ← handshakeTimeout hd with
      | some true => retry
      | some false => reset
      | none => pure () : Act Unit).run e).2 := by
  have hu := unmoved_handshakeTimeout e hd
  rw [run_bind]
  generalize (handshakeTimeout hd).run e = r at hu ⊢
  obtain ⟨res, e₁⟩ := r
  rcases res with _ | ⟨_ | _⟩
  · exact hu.went
  · exact hu.went_of (went_reset _ (h.of_unmoved hu) (.inr (hu.state ▸ hs)))
  · exact hu.went.unmoved (hr e₁)

theorem went_timerFired (h : e.OpenedRight) (hd : Handle) (timer : Timer) :
    Went e ((timerFired hd timer).run e).2 := by
  refine timerFired_cases (motive := Went e) e hd timer (Unmoved.refl e).went
    (fun seq _ _ _ ↦ (unmoved_retransmitFired e seq hd).went) ?exhausted
    (fun _ _ ↦ (unmoved_keepAliveFired e hd).went)
    (fun hst _ ↦ went_handshakeFired e h hd _ (.inl hst) fun e' ↦ unmoved_sendSyn e' none)
    (fun hst _ ↦ went_handshakeFired e h hd _ (.inr hst) fun e' ↦ by
      rw [run_bind, run_info]
      exact unmoved_sendSyn e' _) ?finished
  case exhausted =>
    intro seq hst _ _
    have hu := (unmoved_retransmitFired e seq hd).trans (unmoved_sendRst _)
    refine hu.went_of (went_enter _ (fun _ ↦ ?_) nofun nofun)
    rw [hu.state, hst]
    exact .hangUp
  case finished =>
    intro hst _ _
    refine Unmoved.went_of ?_ (@went_enter _ .closed (fun _ ↦ ?_) nofun nofun)
    · exact ⟨rfl, rfl, rfl⟩
    · show e.session.state.Move .closed
      rw [hst]
      exact .finish

theorem went_close : Went e (close.run e).2 := by
  refine close_cases (motive := Went e) e (Unmoved.refl e).went ?stopped ?withdrawn ?abandoned
    ?hungUp
  case stopped =>
    intro hst
    refine went_enter e (fun _ ↦ ?_) nofun nofun
    rw [hst]
    exact .stopWaiting
  case withdrawn =>
    intro hst
    have hu := unmoved_transmit e (Header.buildRst 0 e.session.info.sendNext none)
    refine hu.went_of (went_enter _ (fun _ ↦ ?_) nofun nofun)
    rw [hu.state, hst]
    exact .refused
  case abandoned =>
    intro hst
    refine (unmoved_sendRst e).went_of (went_enter _ (fun _ ↦ ?_) nofun nofun)
    rw [(unmoved_sendRst e).state, hst]
    exact .abandon
  case hungUp =>
    intro hst
    refine (unmoved_sendRst e).went_of (went_enter _ (fun _ ↦ ?_) nofun nofun)
    rw [(unmoved_sendRst e).state, hst]
    exact .hangUp

theorem went_invalidate : Went e (invalidate.run e).2 :=
  went_enter e State.move_closed nofun nofun

theorem went_send (payload : Bytes) : Went e ((send payload).run e).2 :=
  send_cases (motive := Went e) e payload (Unmoved.refl e).went
    fun _ ↦ (unmoved_sendData e payload).went

/-! ### Events -/

@[simp] theorem session_prepare (ev : Event) : (e.prepare ev).session = e.session := by
  cases ev <;> rfl

@[simp] theorem effects_prepare (ev : Event) : (e.prepare ev).effects = [] := by
  cases ev <;> rfl

theorem OpenedRight.prepare {e : Endpoint} (h : e.OpenedRight) (ev : Event) :
    (e.prepare ev).OpenedRight := by
  constructor <;> simp only [session_prepare]
  exacts [h.initiating, h.waiting]

/-- Every event but an open goes along the diagram from the endpoint as it finds it. -/
theorem went_handle (h : e.OpenedRight) (ev : Event) (hev : ev.opensPassive = none) :
    Went (e.prepare ev) (e.handle ev) := by
  have h₀ := h.prepare ev
  cases ev with
  | connect | wait => cases hev
  | close => exact went_close _
  | invalidate => exact went_invalidate _
  | send payload =>
    simp only [handle, Event.act, run_bind, run_pure]
    exact went_send _ payload
  | receive datagram => exact went_receive _ h₀ datagram
  | fire hd timer => exact went_timerFired _ h₀ hd timer

/-- What one event does to the state of a session, read off the endpoint before and after. -/
structure Moved (e : Endpoint) (ev : Event) (e' : Endpoint) : Prop where
  /-- A change of state is an edge of the diagram. -/
  move : e'.session.state ≠ e.session.state → e.session.state.Move e'.session.state
  /-- The host is told of the new state once, and of no other. -/
  entered : statesEntered e'.effects =
    if e'.session.state = e.session.state then [] else [e'.session.state]
  /-- The passive flag changes only when a closed session opens, to the way it opens. -/
  passive : e'.session.info.passive =
    if e.session.state = .closed then ev.opensPassive.getD e.session.info.passive
    else e.session.info.passive
  /-- Only a passive opener waits and only an active one initiates, -/
  opened : e'.OpenedRight
  /-- so only a passive opener falls back to waiting. -/
  fallBack : e.session.state = .connecting → e'.session.state = .waiting →
    e.session.info.passive = true
  /-- Opening a session that is not closed does nothing. -/
  ignored : ev.opensPassive.isSome → e.session.state ≠ .closed → e' = { e with effects := [] }

/-- An event that goes along the diagram from an endpoint in the state of `e` with nothing
recorded moves as the diagram says. -/
theorem Went.moved {e e₀ e' : Endpoint} {ev : Event} (hw : Went e₀ e')
    (hs : e₀.session.state = e.session.state) (he : e₀.effects = [])
    (hp : e₀.session.info.passive =
      if e.session.state = .closed then ev.opensPassive.getD e.session.info.passive
      else e.session.info.passive)
    (hr : e₀.OpenedRight)
    (hi : ev.opensPassive.isSome → e.session.state ≠ .closed → e' = { e with effects := [] }) :
    Moved e ev e' := by
  have hp' := hw.passive.trans hp
  have ho := hw.openedRight hr
  refine ⟨hs ▸ hw.move, by rw [hw.entered, he, hs, statesEntered_nil, List.nil_append], hp', ho,
    ?_, hi⟩
  intro hc hwait
  rw [← ho.waiting hwait, hp', if_neg (by rw [hc]; exact nofun)]

/-- Opening: a closed session starts with the way it opens and enters its opening state, any
other ignores the event. -/
theorem moved_opening (h : e.OpenedRight) (iss : UInt16) {ev : Event} {p : Bool} {next : State}
    (hev : ev.opensPassive = some p) (hm : State.Move .closed next)
    (hi : next = .initiating → p = false) (hw : next = .waiting → p = true)
    (hc : e.session.state = .closed →
      e.handle ev = ((enter next).run ((start iss p).run (e.prepare ev)).2).2)
    (hn : e.session.state ≠ .closed → e.handle ev = { e with effects := [] }) :
    Moved e ev (e.handle ev) := by
  by_cases hst : e.session.state = .closed
  · rw [hc hst, run_start]
    refine (went_enter _ (fun _ ↦ ?_) hi hw).moved ?_ ?_ ?_ ⟨?_, ?_⟩ fun _ hne ↦ absurd hst hne
    · simpa [hst] using hm
    all_goals simp [hst, hev]
  · rw [hn hst]
    refine (Unmoved.refl _).went.moved rfl rfl ?_ ⟨h.initiating, h.waiting⟩ fun _ _ ↦ rfl
    simp [hst]

theorem moved_handle (h : e.OpenedRight) (ev : Event) : Moved e ev (e.handle ev) := by
  cases ev with
  | connect iss =>
    refine moved_opening e h iss rfl .connect (fun _ ↦ rfl) (by decide) (fun hst ↦ ?_) fun hst ↦ ?_
    all_goals simp only [handle, Event.act, Act.connect, run_bind, run_session, session_prepare,
      hst, ↓reduceIte, run_pure]
    rfl
  | wait iss =>
    refine moved_opening e h iss rfl .wait (by decide) (fun _ ↦ rfl) (fun hst ↦ ?_) fun hst ↦ ?_
    all_goals simp only [handle, Event.act, Act.wait, run_bind, run_session, session_prepare,
      hst, ↓reduceIte, run_pure]
    rfl
  | _ =>
    refine (went_handle e h _ ?_).moved (by simp) (by simp) ?_ (h.prepare _) ?_ <;>
      simp [Event.opensPassive]

/-! ### Runs -/

theorem openedRight_fresh {c : Config} {s : Session} (hs : Session.new c = .ok s) :
    OpenedRight { session := s } := by
  obtain rfl := Session.eq_of_new hs
  exact ⟨nofun, nofun⟩

theorem Reachable.openedRight {e : Endpoint} (h : e.Reachable) : e.OpenedRight := by
  induction h with
  | fresh hs => exact openedRight_fresh hs
  | handle ev _ ih => exact (moved_handle _ ih ev).opened

/-- Every event a host hands a reachable session moves it along the state diagram: at most one
change of state, an edge of the diagram, told to the host once with the new state; the passive
flag records how the session last opened, only a passive opener waits or falls back to waiting,
and opening a session that is not closed does nothing. -/
theorem Reachable.moves_along_diagram {e : Endpoint} (h : e.Reachable) (ev : Event) :
    Moved e ev (e.handle ev) :=
  moved_handle e h.openedRight ev

theorem synAcked_closes_along_diagram :
    synAcked.Reachable ∧ Moved synAcked .close (synAcked.handle .close) :=
  ⟨synAcked_reachable, Reachable.moves_along_diagram synAcked_reachable .close⟩

end Endpoint

end ReliableDatagram
